import EdgeGateway.Proofs.Regex.Branches

/-!
# Patterns in parentheses

What is read to the end of the text at one depth is read to the parenthesis behind it
at the next, unless a comment hides the parenthesis.  What fails to the end of the text
either passes that parenthesis or stops at one that nothing has opened.
-/

namespace EdgeGateway.Regex

open Reader
open Unicode (NamedSets)

/-- What becomes of alternatives that end with the text when they are read `lift`
groups deeper and more text is behind them. -/
inductive Enclosed (depth : Nat) (alone : Outcome Expr)
    (onward : Nat → List Char → Outcome Expr) : Prop
  | kept {expr : Expr} {final : Scan} (halone : alone = .ok (expr, final))
      (honward : ∀ lift tail, Closing tail →
        onward lift tail = if depth + lift = 0 then .error .unopenedGroup
          else .ok (expr, final.followedBy tail))
  | swallowed {expr : Expr} {final : Scan} (hdepth : depth = 0)
      (halone : alone = .ok (expr, final))
      (honward : ∀ lift tail, Closing tail →
        onward lift tail = if lift = 0 then .ok (expr, final) else .error .unclosedGroup)
  | failed {error : SyntaxError} (halone : alone = .error error)
      (honward : ∀ lift tail, Closing tail → ∀ expr final,
        onward lift tail = .ok (expr, final) →
          error = .unopenedGroup ∨ final.rest <:+ if depth = 0 then tail.tail else tail)

namespace Enclosed

variable {depth : Nat} {alone : Outcome Expr} {onward further : Nat → List Char → Outcome Expr}

theorem congr (honward : ∀ lift tail, Closing tail → onward lift tail = further lift tail)
    (henclosed : Enclosed depth alone further) : Enclosed depth alone onward := by
  cases henclosed with
  | kept halone hkept =>
      exact .kept halone fun lift tail hclosing =>
        (honward lift tail hclosing).trans (hkept lift tail hclosing)
  | swallowed hdepth halone hkept =>
      exact .swallowed hdepth halone fun lift tail hclosing =>
        (honward lift tail hclosing).trans (hkept lift tail hclosing)
  | failed halone hover =>
      refine .failed halone fun lift tail hclosing expr final hok => ?_
      rw [honward lift tail hclosing] at hok
      exact hover lift tail hclosing expr final hok

theorem of_error {error : SyntaxError} (halone : alone = .error error)
    (honward : ∀ lift tail, Closing tail → ∀ expr final,
      onward lift tail ≠ .ok (expr, final)) : Enclosed depth alone onward :=
  .failed halone fun lift tail hclosing expr final hok =>
    absurd hok (honward lift tail hclosing expr final)

end Enclosed

/-- What is shorter than a scan is enclosed by a parenthesis behind it. -/
def EnclosesShorter [NamedSets] (fuel : Nat) (more : Nat → List Char → Nat) (scan : Scan) : Prop :=
  ∀ depth branches parts repeatable (middle : Scan),
    middle.rest.length < scan.rest.length →
      Enclosed depth ((readBranches fuel depth branches parts repeatable).run middle)
        fun lift tail => (readBranches (more lift tail) (depth + lift) branches parts
          repeatable).run (middle.followedBy tail)

section Reading

variable [NamedSets] {fuel depth : Nat} {branches parts : List Expr} {repeatable : Bool}
  {scan : Scan}

/-- A group does not end with the text. -/
theorem readBranches_ne_ok (hdepth : depth ≠ 0) (hend : scan.rest = []) {expr : Expr}
    {final : Scan} :
    (readBranches fuel depth branches parts repeatable).run scan ≠ .ok (expr, final) := by
  intro hok
  obtain ⟨hleft, hhead⟩ := readBranches_eq_ok hok
  rw [hend] at hleft
  rw [List.suffix_nil.mp hleft, if_neg hdepth] at hhead
  cases hhead

/-- At the end of the text with nothing behind it. -/
theorem enclosed_end {more : Nat → List Char → Nat} (hfuel : 0 < fuel)
    (hmore : ∀ lift tail, 0 < more lift tail) (hend : scan.rest = []) :
    Enclosed depth ((readBranches fuel depth branches parts repeatable).run scan)
      fun lift tail =>
        (readBranches (more lift tail) (depth + lift) branches parts repeatable).run scan := by
  have hrun := run_readBranches_end depth branches parts repeatable hfuel hend
  by_cases hzero : depth = 0
  · subst hzero
    refine .swallowed rfl hrun fun lift tail _ => ?_
    rw [run_readBranches_end _ _ _ _ (hmore lift tail) hend, Nat.zero_add]
  · rw [if_neg hzero] at hrun
    exact .of_error hrun fun lift tail _ expr final => readBranches_ne_ok (by omega) hend

omit [NamedSets] in
theorem tail_suffix_tail {text left : List Char} (hleft : left <:+ text) :
    left.tail <:+ text.tail := by
  obtain ⟨before, rfl⟩ := hleft
  cases before with
  | nil => exact List.suffix_refl _
  | cons char before => exact (List.tail_suffix left).trans (List.suffix_append before left)

omit [NamedSets] in
/-- Alternatives in parentheses leave the parenthesis to be taken. -/
theorem followedBy_closed {last : Scan} (hlast : last.rest.head? = some ')')
    (outside : Flags) (tail : List Char) :
    (last.followedBy tail).closed outside = (last.closed outside).followedBy tail := by
  obtain ⟨rest, hrest⟩ := List.head?_eq_some_iff.mp hlast
  simp [Scan.closed, Scan.followedBy, hrest]

/-- A group and what follows it. -/
theorem enclosed_nested {more : Nat → List Char → Nat} {middle : Scan}
    (index : Option Nat) (outside : Flags)
    (hinner : Enclosed (depth + 1) ((readBranches fuel (depth + 1) [] [] false).run middle)
      fun lift tail => (readBranches (more lift tail) (depth + 1 + lift) [] [] false).run
        (middle.followedBy tail))
    (hrest : ∀ inner (last : Scan), last.rest <:+ middle.rest →
      Enclosed depth
        ((readBranches fuel depth branches (.group index inner :: parts) true).run last)
        fun lift tail => (readBranches (more lift tail) (depth + lift) branches
          (.group index inner :: parts) true).run (last.followedBy tail)) :
    Enclosed depth
      ((afterMove branches parts fuel depth (.nested index outside)).run middle)
      fun lift tail => (afterMove branches parts (more lift tail) (depth + lift)
        (.nested index outside)).run (middle.followedBy tail) := by
  simp only [Nat.add_right_comm depth 1] at hinner
  cases hinner with
  | swallowed hdepth => cases hdepth
  | kept halone honward =>
      obtain ⟨hlast, hhead⟩ := readBranches_eq_ok halone
      rw [run_afterMove_nested halone]
      refine .congr (fun lift tail hclosing => ?_)
        (hrest _ _ ((List.tail_suffix _).trans hlast))
      have hsame := honward lift tail hclosing
      rw [if_neg (by omega)] at hsame
      rw [run_afterMove_nested hsame, followedBy_closed hhead]
  | failed halone honward =>
      refine .failed (run_bind_of_error halone) fun lift tail hclosing expr final hok => ?_
      obtain ⟨inner, last, hinner, -⟩ := run_bind_eq_ok_iff.mp hok
      refine (honward lift tail hclosing inner last hinner).imp_right fun hlast => ?_
      rw [run_afterMove_nested hinner] at hok
      rw [if_neg (Nat.succ_ne_zero depth)] at hlast
      have hfinal : final.rest <:+ tail.tail :=
        (readBranches_eq_ok hok).1.trans (tail_suffix_tail hlast)
      split
      · exact hfinal
      · exact hfinal.trans (List.tail_suffix _)

/-- What follows a step that has taken all there is. -/
theorem enclosed_afterMove_end {more : Nat → List Char → Nat} {middle : Scan}
    (move : Move) (hfuel : 0 < fuel) (hmore : ∀ lift tail, 0 < more lift tail)
    (hend : middle.rest = []) :
    Enclosed depth ((afterMove branches parts fuel depth move).run middle)
      fun lift tail =>
        (afterMove branches parts (more lift tail) (depth + lift) move).run middle := by
  cases move with
  | again branches parts repeatable => exact enclosed_end hfuel hmore hend
  | nested index outside =>
      cases hinner : (readBranches fuel (depth + 1) [] [] false).run middle with
      | ok found => exact absurd hinner (readBranches_ne_ok (Nat.succ_ne_zero _) hend)
      | error error =>
          refine .of_error (run_bind_of_error hinner) fun lift tail _ expr final hok => ?_
          obtain ⟨inner, last, hinner, -⟩ := run_bind_eq_ok_iff.mp hok
          exact readBranches_ne_ok (Nat.succ_ne_zero _) hend hinner

/-- A step over a part and all that follows it. -/
theorem enclosed_step {more : Nat → List Char → Nat} {char : Char} {text : List Char}
    (hscan : scan.rest = char :: text) (hchar : char ≠ ')') (hfuel : 0 < fuel)
    (hmore : ∀ lift tail, 0 < more lift tail)
    (hshorter : EnclosesShorter fuel more scan) :
    Enclosed depth
      ((branchStep branches parts repeatable fuel depth (some char)).run scan)
      fun lift tail => (branchStep branches parts repeatable (more lift tail) (depth + lift)
        (some char)).run (scan.followedBy tail) := by
  have htakes := takes_nextMove branches parts repeatable char
  simp only [branchStep_some hchar]
  have hmove := fun {move middle} (hok : (nextMove branches parts repeatable char).run scan =
      .ok (move, middle)) => htakes.consumes hok
  simp only [hscan, List.tail_cons] at hmove
  rcases (htakes.tame char scan (by simp [Before, hscan])).beyond with
    ⟨halone, honward⟩ | ⟨halone, hrest, honward⟩ | ⟨halone, hover⟩
  case kept move middle =>
    have hlength : middle.rest.length < scan.rest.length := by
      rw [hscan]
      exact Nat.lt_succ_of_le (hmove halone).length_le
    rw [run_bind_of_ok halone]
    refine .congr (fun lift tail hclosing => run_bind_of_ok (honward tail hclosing)) ?_
    cases move with
    | again branches parts repeatable => exact hshorter _ _ _ _ middle hlength
    | nested index outside =>
        exact enclosed_nested index outside (hshorter _ _ _ _ middle hlength)
          fun inner last hlast => hshorter _ _ _ _ last
            (Nat.lt_of_le_of_lt hlast.length_le hlength)
  case swallowed move middle =>
    rw [run_bind_of_ok halone]
    exact .congr (fun lift tail hclosing => run_bind_of_ok (honward tail hclosing))
      (enclosed_afterMove_end move hfuel hmore hrest)
  case failed =>
    refine .failed (run_bind_of_error halone) fun lift tail hclosing expr final hok => ?_
    obtain ⟨move, middle, hmove, hafter⟩ := run_bind_eq_ok_iff.mp hok
    rcases hover tail hclosing move middle hmove with hpast | ⟨hhalted, hagain⟩
    · have hfinal := (afterMove_suffix hafter).trans hpast
      right
      split
      · exact hfinal
      · exact hfinal.trans (List.tail_suffix _)
    · obtain ⟨branches, parts, repeatable, rfl⟩ := hagain
      exact absurd hafter (readBranches_halted hclosing hhalted)

theorem run_branchStep_closed {last : Scan} :
    (branchStep branches parts repeatable fuel depth (some ')')).run last =
      if depth = 0 then .error .unopenedGroup else .ok (finished branches parts, last) := by
  rw [branchStep]
  split <;> rfl

/-- What follows space, with text behind it that no comment hides. -/
theorem enclosed_branchStep (more : Nat → List Char → Nat) (hfuel : scan.rest.length ≤ fuel)
    (hmore : ∀ lift tail, (scan.rest ++ tail).length ≤ more lift tail)
    (hshorter : EnclosesShorter fuel more scan) :
    Enclosed depth
      ((branchStep branches parts repeatable fuel depth scan.rest.head?).run scan)
      fun lift tail => (branchStep branches parts repeatable (more lift tail) (depth + lift)
        (scan.followedBy tail).rest.head?).run (scan.followedBy tail) := by
  cases hscan : scan.rest with
  | nil =>
      have honward : ∀ lift tail, Closing tail → (branchStep branches parts repeatable
          (more lift tail) (depth + lift) (scan.followedBy tail).rest.head?).run
            (scan.followedBy tail) =
          if depth + lift = 0 then .error .unopenedGroup
          else .ok (finished branches parts, scan.followedBy tail) := by
        intro lift tail hclosing
        rw [Scan.followedBy_rest, hscan, List.nil_append, hclosing.head, run_branchStep_closed]
      rw [List.head?_nil, branchStep]
      by_cases hzero : depth = 0
      · rw [if_pos hzero]
        exact .kept (run_pure _ scan) honward
      · rw [if_neg hzero]
        refine .failed rfl fun lift tail hclosing expr final hok => Or.inr ?_
        rw [honward lift tail hclosing, if_neg (by omega)] at hok
        obtain ⟨-, rfl⟩ : _ ∧ scan.followedBy tail = final := by simpa using hok
        rw [if_neg hzero, Scan.followedBy_rest, hscan]
        exact List.suffix_refl _
  | cons char text =>
      have honward : ∀ tail, (scan.followedBy tail).rest.head? = some char := by simp [hscan]
      simp only [honward, List.head?_cons]
      by_cases hclose : char = ')'
      · subst hclose
        simp only [run_branchStep_closed]
        by_cases hzero : depth = 0
        · rw [if_pos hzero]
          exact .failed rfl fun lift tail hclosing expr final hok => Or.inl rfl
        · rw [if_neg hzero]
          exact .kept rfl fun lift tail hclosing => rfl
      · have hlength : 0 < scan.rest.length := by simp [hscan]
        refine enclosed_step hscan hclose (Nat.lt_of_lt_of_le hlength hfuel)
          (fun lift tail => ?_) hshorter
        have hbound := hmore lift tail
        rw [List.length_append] at hbound
        omega

theorem run_readBranches_spaced (hend : scan.spaced.rest = []) :
    (readBranches fuel depth branches parts repeatable).run scan =
      (readBranches fuel depth branches parts repeatable).run scan.spaced := by
  cases fuel with
  | zero => rfl
  | succ fuel =>
      rw [run_readBranches_end _ _ _ _ (Nat.succ_pos _) hend, run_readBranches_succ, hend,
        List.head?_nil, branchStep]
      split <;> rfl

/-- Alternatives are enclosed by a parenthesis behind them. -/
theorem enclosed_readBranches {fuel : Nat} {more : Nat → List Char → Nat} (depth : Nat)
    (branches parts : List Expr) (repeatable : Bool) {scan : Scan}
    (hfuel : scan.rest.length < fuel)
    (hmore : ∀ lift tail, (scan.rest ++ tail).length < more lift tail) :
    Enclosed depth ((readBranches fuel depth branches parts repeatable).run scan)
      fun lift tail => (readBranches (more lift tail) (depth + lift) branches parts
        repeatable).run (scan.followedBy tail) := by
  induction fuel generalizing more depth branches parts repeatable scan with
  | zero => omega
  | succ fuel ih =>
      rcases afterSpace_append scan.flags scan.rest with hsame | ⟨hempty, hswallowed⟩
      · have hleft := scan.spaced_suffix.length_le
        rw [run_readBranches_succ]
        refine .congr (fun lift tail hclosing => ?_)
          (enclosed_branchStep (fun lift tail => more lift tail - 1) (by omega)
            (fun lift tail => ?_) fun depth branches parts repeatable middle hshorter => ?_)
        · have hspaced : (scan.followedBy tail).spaced = scan.spaced.followedBy tail := by
            simp [Scan.spaced, Scan.followedBy, hsame tail hclosing]
          obtain ⟨less, hless⟩ : ∃ less, more lift tail = less + 1 :=
            ⟨more lift tail - 1, by have := hmore lift tail; omega⟩
          rw [hless, run_readBranches_succ, hspaced, Nat.add_sub_cancel]
        · have hbound := hmore lift tail
          rw [List.length_append] at hbound ⊢
          omega
        · refine ih depth branches parts repeatable (by omega) fun lift tail => ?_
          have hbound := hmore lift tail
          rw [List.length_append] at hbound ⊢
          omega
      · have hend : scan.spaced.rest = [] := hempty
        rw [run_readBranches_spaced hend]
        refine .congr (fun lift tail hclosing => ?_)
          (enclosed_end (Nat.succ_pos fuel) (fun lift tail => Nat.zero_lt_of_lt (hmore lift tail))
            hend)
        have hspaced : (scan.followedBy tail).spaced = scan.spaced := by
          simp [Scan.spaced, Scan.followedBy, hempty, hswallowed tail hclosing]
        rw [run_readBranches_spaced (hspaced ▸ hend), hspaced]

end Reading

end EdgeGateway.Regex
