import EdgeGateway.Proofs.Regex.Parts
import EdgeGateway.Proofs.Text.Pieces

/-!
# Classes before a closing parenthesis

A class in brackets is read up to its own closing bracket.  Where a pattern ends
inside a class there is none, and what follows the pattern brings none either, so
nothing can come of it.
-/

namespace EdgeGateway.Regex

open Reader
open Unicode (CodeRanges NamedSets)

/-! ## Items and ranges -/


/-- What may come of an item of a class that fails where a pattern ends. -/
def Itemised : Excess Primitive := fun tail value final =>
  Past tail value final ∨ ∃ condition, value = .assertion condition

theorem Escaped.itemised {tail : List Char} {value : Primitive} {final : Scan}
    (hescaped : Escaped tail value final) : Itemised tail value final :=
  hescaped.imp_right fun hstopped => ⟨_, hstopped.1⟩

theorem takes_item [NamedSets] (char : Char) :
    Takes Itemised (match (some char : Option Char) with
      | none => throw .unclosedClass
      | some '\\' => do
          advance
          readEscape
      | some char => do
          advance
          return .literal char false : Reader Primitive) := by
  split
  next heq => cases heq
  next =>
    exact takes_advance.bindNever fun _ => tame_readEscape.mono fun _ _ _ => Escaped.itemised
  next => exact takes_advance.bindNever fun _ => tame_pure _

theorem tame_readClassItem [NamedSets] : Tame Itemised readClassItem :=
  tame_bind_peek_of_takes takes_item rfl fun _ _ _ => Or.inl

theorem consumes_readClassItem [NamedSets] {scan final : Scan} {value : Primitive}
    (hok : readClassItem.run scan = .ok (value, final)) : final.rest <:+ scan.rest.tail :=
  consumes_bind_peek takes_item rfl hok

/-- The end of a range whose start has been read. -/
def rangeTo [NamedSets] (flags : Flags) (first : Primitive) : Reader CodeRanges := do
  let final ← readClassItem
  let low ← classEnd flags first
  let high ← classEnd flags final
  if low ≤ high then return [(low, high)] else throw .invalidClassRange

/-- An item of a class is not the start of a range. -/
def EndsItem (flags : Flags) (char : Char) (text : List Char) : Prop :=
  char ≠ '-' ∨ (afterSpace flags text).head? = some ']' ∨
    (afterSpace flags text).head? = some '-'

instance (flags : Flags) (char : Char) (text : List Char) :
    Decidable (EndsItem flags char text) :=
  inferInstanceAs (Decidable (_ ∨ _ ∨ _))

/-- What follows an item of a class. -/
def rangeFrom [NamedSets] (flags : Flags) (first : Primitive) : List Char → Reader CodeRanges
  | [] => throw .unclosedClass
  | char :: text =>
      if EndsItem flags char text then classMembers flags first
      else do
        step
        rangeTo flags first

theorem readClassRange_eq [NamedSets] :
    readClassRange = get >>= fun scan => readClassItem >>= fun first => skipSpace >>= fun _ =>
      rest >>= rangeFrom scan.flags first := rfl

theorem tame_rangeTo [NamedSets] (flags : Flags) (first : Primitive) : Tame Past (rangeTo flags first) := by
  have hends : ∀ final, Tame Past (do
      let low ← classEnd flags first
      let high ← classEnd flags final
      if low ≤ high then return [(low, high)] else throw .invalidClassRange :
        Reader CodeRanges) := by
    intro final
    refine (tame_lift _).bindNever fun low => (tame_lift _).bindNever fun high => ?_
    split
    next => exact tame_pure _
    next => exact tame_throw _
  refine fun scan _ => (tame_readClassItem scan trivial).bind hends ?_
  rintro tail - final middle (hpast | ⟨condition, rfl⟩) value last hok
  · exact ((hends final).shrinks hok).trans hpast
  · obtain ⟨low, _, -, hhigh⟩ := run_bind_eq_ok_iff.mp hok
    obtain ⟨high, _, hend, -⟩ := run_bind_eq_ok_iff.mp hhigh
    cases hend

theorem head?_afterSpace_append {tail : List Char} (hclosing : Closing tail) (flags : Flags)
    (text : List Char) {char : Char} (hchar : char ≠ ')') :
    (afterSpace flags (text ++ tail)).head? = some char ↔
      (afterSpace flags text).head? = some char := by
  rcases afterSpace_append flags text with hsame | ⟨hempty, hswallowed⟩
  · rw [hsame tail hclosing, hclosing.head?_append hchar]
  · rw [hempty, hswallowed tail hclosing]

theorem tameAt_rangeFrom [NamedSets] (flags : Flags) (first : Primitive) (scan : Scan) :
    TameAt Reached scan (rangeFrom flags first scan.rest)
      fun tail => rangeFrom flags first (scan.rest ++ tail) := by
  cases hrest : scan.rest with
  | nil =>
      refine .of_error rfl fun tail hclosing value final hok => ?_
      obtain ⟨more, rfl⟩ := hclosing.exists_cons
      have hlift : Tame Never (liftM (classMembers flags first) : Reader CodeRanges) :=
        tame_lift _
      have hleft := hlift.shrinks hok
      rwa [Scan.followedBy_rest, hrest, List.nil_append] at hleft
  | cons char text =>
      have hsame : ∀ tail, Closing tail → (EndsItem flags char (text ++ tail) ↔
          EndsItem flags char text) := fun tail hclosing => by
        rw [EndsItem, EndsItem, head?_afterSpace_append hclosing _ _ (by decide),
          head?_afterSpace_append hclosing _ _ (by decide)]
      by_cases hhyphen : EndsItem flags char text
      · refine (tame_lift (classMembers flags first) scan trivial).congr ?_
          fun tail hclosing => ?_
        · rw [rangeFrom, if_pos hhyphen]
        · rw [List.cons_append, rangeFrom, if_pos ((hsame tail hclosing).mpr hhyphen)]
      · have hbefore : Before char scan := by simp [Before, hrest]
        have hrange : Takes Reached (step >>= fun _ => rangeTo flags first) :=
          takes_step.bindNever fun _ => (tame_rangeTo flags first).reached
        refine (hrange.tame char scan hbefore).congr ?_ fun tail hclosing => ?_
        · rw [rangeFrom, if_neg hhyphen]
        · rw [List.cons_append, rangeFrom, if_neg (mt (hsame tail hclosing).mp hhyphen)]

theorem rangeFrom_assertion [NamedSets] {flags : Flags} {condition : Assertion} {text : List Char}
    {scan final : Scan} {members : CodeRanges}
    (hok : (rangeFrom flags (.assertion condition) text).run scan = .ok (members, final)) :
    False := by
  cases text with
  | nil => cases hok
  | cons char text =>
      rw [rangeFrom] at hok
      split at hok
      next => cases hok
      next =>
        obtain ⟨_, _, -, hrange⟩ := run_bind_eq_ok_iff.mp hok
        obtain ⟨_, _, -, hlow⟩ := run_bind_eq_ok_iff.mp hrange
        obtain ⟨_, _, hend, -⟩ := run_bind_eq_ok_iff.mp hlow
        cases hend

theorem tame_rangeAfter [NamedSets] (flags : Flags) (first : Primitive) :
    Tame Reached (skipSpace >>= fun _ => rest >>= rangeFrom flags first) :=
  tame_skipSpace.bindNever fun _ =>
    tameOn_bind_rest fun scan _ => tameAt_rangeFrom flags first scan

theorem tame_readClassRange [NamedSets] : Tame Reached readClassRange := by
  rw [readClassRange_eq]
  refine tameOn_bind_flags (fun flags => readClassItem >>= fun first =>
    skipSpace >>= fun _ => rest >>= rangeFrom flags first) fun flags scan _ => ?_
  refine (tame_readClassItem scan trivial).bind (tame_rangeAfter flags) ?_
  rintro tail - first middle (hpast | ⟨condition, rfl⟩) members final hok
  · exact ((tame_rangeAfter flags first).shrinks hok).trans
      (hpast.trans (List.tail_suffix _))
  · obtain ⟨_, _, -, hrange⟩ := run_bind_eq_ok_iff.mp hok
    exact (rangeFrom_assertion ((run_bind_of_ok (run_rest _)).symm.trans hrange)).elim

theorem consumes_readClassRange [NamedSets] {scan final : Scan} {members : CodeRanges}
    (hok : readClassRange.run scan = .ok (members, final)) : final.rest <:+ scan.rest.tail := by
  rw [readClassRange_eq] at hok
  rw [run_bind_of_ok (run_get scan)] at hok
  obtain ⟨first, middle, hitem, hrange⟩ := run_bind_eq_ok_iff.mp hok
  exact ((tame_rangeAfter _ first).shrinks hrange).trans (consumes_readClassItem hitem)

theorem readLeadingHyphens_stop {scan : Scan} (hhead : scan.rest.head? ≠ some '-')
    (fuel : Nat) (seen : Bool) :
    (readLeadingHyphens fuel seen).run scan = (pure seen : Reader Bool).run scan := by
  cases fuel with
  | zero => rfl
  | succ fuel =>
      rw [readLeadingHyphens, run_bind_of_ok (run_peek scan)]
      split
      next heq => exact absurd heq hhead
      next => rfl

theorem tameAt_readLeadingHyphens {fuel : Nat} {more : List Char → Nat} (seen : Bool)
    {scan : Scan} (hfuel : scan.rest.length ≤ fuel)
    (hmore : ∀ tail, (scan.rest ++ tail).length ≤ more tail) :
    TameAt Never scan (readLeadingHyphens fuel seen)
      fun tail => readLeadingHyphens (more tail) seen := by
  induction fuel generalizing more seen scan with
  | zero =>
      have hrest : scan.rest = [] := List.length_eq_zero_iff.mp (Nat.le_zero.mp hfuel)
      refine .of_run (List.suffix_refl _) rfl (fun tail hclosing => ?_)
        (tame_pure seen scan trivial)
      exact readLeadingHyphens_stop (by simp [hrest, hclosing.head]) _ _
  | succ fuel ih =>
      by_cases hhead : scan.rest.head? = some '-'
      · obtain ⟨text, hrest⟩ := List.head?_eq_some_iff.mp hhead
        have hstep : ∀ further scan', scan'.rest.head? = some '-' →
            (readLeadingHyphens (further + 1) seen).run scan' =
              (step >>= fun _ => readLeadingHyphens further true).run scan' := by
          intro further scan' hhead'
          rw [readLeadingHyphens, run_bind_of_ok (run_peek scan'), hhead']
          rfl
        have hnext : TameAt Never scan (step >>= fun _ => readLeadingHyphens fuel true)
            fun tail => step >>= fun _ => readLeadingHyphens (more tail - 1) true := by
          refine (takes_step.tame '-' scan hhead).bindAt (fun value middle hok => ?_)
            (fun value middle hok hend tail hclosing => ?_) fun _ _ _ _ hnever => hnever.elim
          · have hlength := (takes_step.consumes hok).length_le
            rw [hrest, List.tail_cons] at hlength
            rw [hrest, List.length_cons] at hfuel
            refine ih true (by omega) fun tail => ?_
            have hbound := hmore tail
            rw [hrest, List.cons_append, List.length_cons, List.length_append] at hbound
            rw [List.length_append]
            omega
          · have hstop : middle.rest.head? ≠ some '-' := by simp [hend]
            exact (readLeadingHyphens_stop hstop _ _).trans
              (readLeadingHyphens_stop hstop _ _).symm
        refine .of_run (List.suffix_refl _) (hstep fuel scan hhead) (fun tail _ => ?_) hnext
        have hbound := hmore tail
        rw [hrest, List.cons_append, List.length_cons] at hbound
        obtain ⟨less, hless⟩ : ∃ less, more tail = less + 1 := ⟨more tail - 1, by omega⟩
        rw [hless]
        exact hstep less _ (by simp [hrest])
      · refine .of_run (List.suffix_refl _) (readLeadingHyphens_stop hhead _ _)
          (fun tail hclosing => readLeadingHyphens_stop ?_ _ _) (tame_pure seen scan trivial)
        cases hrest : scan.rest with
        | nil => simp [hrest, hclosing.head]
        | cons char text => simpa [hrest] using hhead

/-- The characters that stand for themselves because they come first. -/
def firstMembers (negated : Bool) : Reader (Bool × CodeRanges) := do
  let hyphen ← readLeadingHyphens (← rest).length false
  match ← peek with
  | none => throw .unclosedClass
  | some ']' =>
      if hyphen then return (negated, [(0x2D, 0x2D)])
      step
      if (← peek).isNone then throw .unclosedClass
      return (negated, [(0x5D, 0x5D)])
  | some _ => return (negated, if hyphen then [(0x2D, 0x2D)] else [])

theorem readClassOpen_eq :
    readClassOpen = step >>= fun _ => peek >>= fun next =>
      match next with
      | some '^' => step >>= fun _ => firstMembers true
      | _ => firstMembers false := rfl

/-- A value that is given at the end of the text only where more text follows. -/
theorem tameAt_throw_pure {Value : Type} {scan : Scan} (hend : AtEnd scan)
    (error : SyntaxError) (value : Value) :
    TameAt Reached scan (throw error : Reader Value) fun _ => pure value := by
  refine .of_error rfl fun tail _ found final hok => ?_
  obtain ⟨-, rfl⟩ := run_pure_eq_ok_iff.mp hok
  have hrest : (scan.followedBy tail).rest = tail := by
    rw [Scan.followedBy_rest, hend, List.nil_append]
  exact ⟨[], hrest⟩

theorem tame_firstMembers (negated : Bool) : Tame Reached (firstMembers negated) := by
  refine tameOn_bind_rest fun scan _ => ?_
  refine (tameAt_readLeadingHyphens false (Nat.le_refl _) fun _ => Nat.le_refl _).bindNever
    fun hyphen => tame_bind_peek (fun char => ?_) fun scan hend => tameAt_throw_pure hend _ _
  dsimp only
  split
  next heq => cases heq
  next =>
    split
    next => exact (tame_pure _).only
    next =>
      refine (takes_step.bindNever fun _ =>
        tame_bind_peek (fun _ => ?_) fun scan hend => ?_).tame char
      · exact (tame_pure _).only
      · exact tameAt_throw_pure hend _ _
  next => exact (tame_pure _).only

theorem takes_readClassOpen : Takes Reached readClassOpen := by
  rw [readClassOpen_eq]
  refine takes_step.bindNever fun _ => tame_bind_peek (fun char => ?_) fun scan _ =>
    tame_firstMembers false scan trivial
  split
  next => exact (takes_step.bindNever fun _ => tame_firstMembers true).tame char
  next => exact (tame_firstMembers false).only

/-! ## Named classes -/

/-- The name of a class and what follows it, behind the sign that negates it. -/
def asciiBody (negated : Bool) (body : List Char) :
    Option (CodeRanges × Bool × List Char) :=
  match Text.splitAtFirst? ':' body with
  | some (name, ']' :: rest) =>
      (asciiClass? (String.ofList name)).map fun members => (members, negated, rest)
  | _ => none

theorem asciiBody_append {tail : List Char} (hclosing : Closing tail) (negated : Bool)
    (body : List Char) :
    asciiBody negated (body ++ tail) =
      (asciiBody negated body).map fun (members, inverted, left) =>
        (members, inverted, left ++ tail) := by
  have hcolon : ':' ∉ tail := hclosing.not_mem (by decide) (by decide)
  unfold asciiBody
  rw [Text.splitAtFirst?_append_tail hcolon]
  cases hsplit : Text.splitAtFirst? ':' body with
  | none => rfl
  | some found =>
      obtain ⟨name, after⟩ := found
      cases after with
      | nil =>
          obtain ⟨more, rfl⟩ := hclosing.exists_cons
          rfl
      | cons char after =>
          by_cases hbracket : char = ']'
          · subst hbracket
            simp only [Option.map_some, List.cons_append, Option.map_map]
            rfl
          · simp [hbracket]

theorem asciiBody_suffix {negated inverted : Bool} {body left : List Char}
    {members : CodeRanges} (hread : asciiBody negated body = some (members, inverted, left)) :
    left <:+ body := by
  unfold asciiBody at hread
  split at hread
  next name rest hsplit =>
    obtain ⟨_, -, hpair⟩ := Option.map_eq_some_iff.mp hread
    obtain ⟨-, -, rfl⟩ : _ = members ∧ negated = inverted ∧ rest = left := by simpa using hpair
    exact ⟨name ++ [':', ']'], by simp [(Text.splitAtFirst?_eq_some_iff.mp hsplit).2]⟩
  next => simp at hread

theorem readAsciiClass?_colon (body : List Char) :
    readAsciiClass? ('[' :: ':' :: body) =
      if body.head? = some '^' then asciiBody true body.tail else asciiBody false body := by
  cases body with
  | nil => rfl
  | cons char body =>
      by_cases hsign : char = '^'
      · subst hsign
        rfl
      · rw [List.head?_cons, if_neg (by simpa using hsign), readAsciiClass?]
        · rfl
        · exact fun rest hsame => hsign (List.cons.inj hsame).1

theorem readAsciiClass?_other {text : List Char} (hcolon : text.head? ≠ some ':') :
    readAsciiClass? ('[' :: text) = none := by
  cases text with
  | nil => rfl
  | cons char text =>
      have hchar : char ≠ ':' := by simpa using hcolon
      simp [readAsciiClass?, hchar]

/-- A named class ends at its brackets, and there are none behind. -/
theorem readAsciiClass?_append {tail : List Char} (hclosing : Closing tail)
    (text : List Char) :
    readAsciiClass? ('[' :: (text ++ tail)) =
      (readAsciiClass? ('[' :: text)).map fun (members, inverted, left) =>
        (members, inverted, left ++ tail) := by
  by_cases hcolon : text.head? = some ':'
  · obtain ⟨body, rfl⟩ := List.head?_eq_some_iff.mp hcolon
    rw [List.cons_append, readAsciiClass?_colon, readAsciiClass?_colon]
    by_cases hsign : body.head? = some '^'
    · obtain ⟨name, rfl⟩ := List.head?_eq_some_iff.mp hsign
      simp [asciiBody_append hclosing]
    · rw [if_neg hsign, if_neg (hclosing.head?_append_ne (by decide) hsign),
        asciiBody_append hclosing]
  · rw [readAsciiClass?_other hcolon,
      readAsciiClass?_other (hclosing.head?_append_ne (by decide) hcolon)]
    rfl

theorem readAsciiClass?_suffix {text left : List Char} {members : CodeRanges}
    {inverted : Bool} (hread : readAsciiClass? ('[' :: text) = some (members, inverted, left)) :
    left <:+ text := by
  by_cases hcolon : text.head? = some ':'
  · obtain ⟨body, rfl⟩ := List.head?_eq_some_iff.mp hcolon
    rw [readAsciiClass?_colon] at hread
    split at hread
    next =>
      exact (asciiBody_suffix hread).trans
        ((List.tail_suffix body).trans (List.suffix_cons _ _))
    next => exact (asciiBody_suffix hread).trans (List.suffix_cons _ _)
  · rw [readAsciiClass?_other hcolon] at hread
    simp at hread

/-! ## Inside a class -/

/-- What one step inside a class comes to. -/
inductive ClassMove where
  | closed (members : CodeRanges)
  | again (pending : Option (CodeRanges × SetOperation)) (items : CodeRanges)
  | nested (negated : Bool) (first : CodeRanges)

/-- A step at an opening bracket, which may name a class. -/
def bracketMove [NamedSets] (pending : Option (CodeRanges × SetOperation)) (items : CodeRanges)
    (flags : Flags) : Option (CodeRanges × Bool × List Char) → Reader ClassMove
  | some (members, inverted, left) => do
      setRest left
      return .again pending (items ++ negateIf flags inverted (foldIfAsked flags members))
  | none => do
      let (inverted, first) ← readClassOpen
      return .nested inverted first

/-- A step inside a class, after space. -/
def classMove [NamedSets] (negated : Bool) (pending : Option (CodeRanges × SetOperation))
    (items : CodeRanges) (flags : Flags) (text : List Char) : Reader ClassMove :=
  let operation (operation : SetOperation) : Reader ClassMove := do
    advance
    advance
    return .again (some (combine flags pending items, operation)) []
  match text with
  | [] => throw .unclosedClass
  | '[' :: text => bracketMove pending items flags (readAsciiClass? ('[' :: text))
  | ']' :: text => do
      setRest text
      return .closed (negateIf flags negated (foldIfAsked flags (combine flags pending items)))
  | '&' :: '&' :: _ => operation .intersection
  | '-' :: '-' :: _ => operation .difference
  | '~' :: '~' :: _ => operation .symmetricDifference
  | _ => do
      let members ← readClassRange
      return .again pending (items ++ members)

/-- What follows a step inside a class. -/
def classAfter [NamedSets] (fuel : Nat) (negated : Bool)
    (pending : Option (CodeRanges × SetOperation)) (items : CodeRanges) :
    ClassMove → Reader CodeRanges
  | .closed members => return members
  | .again pending items => readClassBody fuel negated pending items
  | .nested inverted first => do
      let members ← readClassBody fuel inverted none first
      readClassBody fuel negated pending (items ++ members)

/-- A step inside a class and all that follows it. -/
def classStep [NamedSets] (fuel : Nat) (negated : Bool)
    (pending : Option (CodeRanges × SetOperation)) (items : CodeRanges) :
    Reader CodeRanges := do
  let flags := (← get).flags
  let move ← classMove negated pending items flags (← rest)
  classAfter fuel negated pending items move

theorem run_classStep [NamedSets] (fuel : Nat) (negated : Bool)
    (pending : Option (CodeRanges × SetOperation)) (items : CodeRanges) (scan : Scan) :
    (classStep fuel negated pending items).run scan =
      (classMove negated pending items scan.flags scan.rest >>=
        classAfter fuel negated pending items).run scan := by
  unfold classStep
  rw [run_bind_of_ok (run_get scan)]
  dsimp only
  rw [run_bind_of_ok (run_rest scan)]

theorem bracketMove_bind [NamedSets] (fuel : Nat) (negated : Bool)
    (pending : Option (CodeRanges × SetOperation)) (items : CodeRanges) (flags : Flags)
    (named : Option (CodeRanges × Bool × List Char)) :
    bracketMove pending items flags named >>= classAfter fuel negated pending items =
      match named with
      | some (members, inverted, left) =>
          setRest left >>= fun _ => readClassBody fuel negated pending
            (items ++ negateIf flags inverted (foldIfAsked flags members))
      | none =>
          readClassOpen >>= fun (inverted, first) =>
            readClassBody fuel inverted none first >>= fun members =>
              readClassBody fuel negated pending (items ++ members) := by
  cases named <;> simp only [bracketMove, bind_assoc, pure_bind, classAfter]

theorem readClassBody_succ [NamedSets] (fuel : Nat) (negated : Bool)
    (pending : Option (CodeRanges × SetOperation)) (items : CodeRanges) :
    readClassBody (fuel + 1) negated pending items =
      skipSpace >>= fun _ => classStep fuel negated pending items := by
  rw [readClassBody]
  unfold classStep
  refine congrArg _ (funext fun _ => congrArg _ (funext fun scan => ?_))
  dsimp only
  refine congrArg _ (funext fun text => ?_)
  unfold classMove
  split
  next => rfl
  next text => exact (bracketMove_bind fuel negated pending items _ _).symm
  next => simp only [bind_assoc, pure_bind, classAfter]
  next => rfl
  next => rfl
  next => rfl
  next => simp only [bind_assoc, pure_bind, classAfter]

section ClassMove

variable {negated : Bool} {pending : Option (CodeRanges × SetOperation)} {items : CodeRanges}
  {flags : Flags}

/-- What may come of a step in a class that fails where a pattern ends. -/
def Unclosed : Excess ClassMove := fun tail move final =>
  Reached tail move final ∧ ∀ members, move ≠ .closed members

/-- A step over an item or a range. -/
def rangeMove [NamedSets] (pending : Option (CodeRanges × SetOperation)) (items : CodeRanges) :
    Reader ClassMove := do
  let members ← readClassRange
  return .again pending (items ++ members)

theorem rangeMove_eq_ok [NamedSets] {scan final : Scan} {move : ClassMove}
    (hok : (rangeMove pending items).run scan = .ok (move, final)) :
    final.rest <:+ scan.rest.tail ∧ ∀ members, move ≠ .closed members := by
  obtain ⟨members, middle, hrange, hpure⟩ := run_bind_eq_ok_iff.mp hok
  obtain ⟨rfl, rfl⟩ := run_pure_eq_ok_iff.mp hpure
  exact ⟨consumes_readClassRange hrange, by simp⟩

theorem tame_rangeMove [NamedSets] (pending : Option (CodeRanges × SetOperation)) (items : CodeRanges) :
    Tame Unclosed (rangeMove pending items) := fun scan _ => by
  refine (tame_readClassRange scan trivial).bind (fun _ => tame_pure _) ?_
  intro tail _ members middle hreached move final hok
  obtain ⟨rfl, rfl⟩ := run_pure_eq_ok_iff.mp hok
  exact ⟨hreached, by simp⟩

theorem classMove_operation [NamedSets] {char : Char} (hchar : char = '&' ∨ char = '-' ∨ char = '~') :
    ∃ operation, ∀ text, classMove negated pending items flags (char :: char :: text) =
      advance >>= fun _ => advance >>= fun _ =>
        return .again (some (combine flags pending items, operation)) [] := by
  rcases hchar with rfl | rfl | rfl
  · exact ⟨.intersection, fun _ => rfl⟩
  · exact ⟨.difference, fun _ => rfl⟩
  · exact ⟨.symmetricDifference, fun _ => rfl⟩

theorem classMove_range [NamedSets] {char : Char} {text : List Char} (hopen : char ≠ '[')
    (hclose : char ≠ ']')
    (hdouble : (char = '&' ∨ char = '-' ∨ char = '~') → text.head? ≠ some char) :
    classMove negated pending items flags (char :: text) = rangeMove pending items := by
  unfold classMove
  split
  next heq => cases heq
  next heq => exact absurd (List.cons.inj heq).1 hopen
  next heq => exact absurd (List.cons.inj heq).1 hclose
  next heq =>
    obtain ⟨rfl, rfl⟩ := List.cons.inj heq
    exact absurd rfl (hdouble (by simp))
  next heq =>
    obtain ⟨rfl, rfl⟩ := List.cons.inj heq
    exact absurd rfl (hdouble (by simp))
  next heq =>
    obtain ⟨rfl, rfl⟩ := List.cons.inj heq
    exact absurd rfl (hdouble (by simp))
  next => rfl

theorem tameAt_classMove_open [NamedSets] {scan : Scan} {text : List Char}
    (hrest : scan.rest = '[' :: text) :
    TameAt Unclosed scan (classMove negated pending items flags ('[' :: text))
      fun tail => classMove negated pending items flags ('[' :: (text ++ tail)) := by
  cases hclass : readAsciiClass? ('[' :: text) with
  | none =>
      have hopen : TameAt Unclosed scan
          (readClassOpen >>= fun (inverted, first) => pure (ClassMove.nested inverted first))
          fun _ => readClassOpen >>= fun (inverted, first) =>
            pure (ClassMove.nested inverted first) := by
        refine (takes_readClassOpen.tame '[' scan (by simp [Before, hrest])).bind
          (fun _ => tame_pure _) ?_
        intro tail _ first middle hreached move final hok
        obtain ⟨rfl, rfl⟩ := run_pure_eq_ok_iff.mp hok
        exact ⟨hreached, by simp⟩
      refine hopen.congr ?_ fun tail hclosing => ?_
      · simp only [classMove, bracketMove, hclass]
      · simp only [classMove, bracketMove, readAsciiClass?_append hclosing, hclass,
          Option.map_none]
  | some found =>
      obtain ⟨members, inverted, left⟩ := found
      have hleft : left <:+ scan.rest :=
        hrest ▸ (readAsciiClass?_suffix hclass).trans (List.suffix_cons _ _)
      refine (tameAt_setRest (tame_pure (ClassMove.again pending
        (items ++ negateIf flags inverted (foldIfAsked flags members)))) hleft).congr ?_
          fun tail hclosing => ?_
      · simp only [classMove, bracketMove, hclass]
      · simp only [classMove, bracketMove, readAsciiClass?_append hclosing, hclass,
          Option.map_some]

theorem tameAt_classMove [NamedSets] (scan : Scan) :
    TameAt Unclosed scan (classMove negated pending items flags scan.rest)
      fun tail => classMove negated pending items flags (scan.rest ++ tail) := by
  cases hrest : scan.rest with
  | nil =>
      refine .of_error rfl fun tail hclosing move final hok => ?_
      obtain ⟨more, rfl⟩ := hclosing.exists_cons
      rw [List.nil_append, classMove_range (by decide) (by decide) (by simp)] at hok
      obtain ⟨hpast, hmove⟩ := rangeMove_eq_ok hok
      rw [Scan.followedBy_rest, hrest, List.nil_append] at hpast
      exact ⟨hpast.trans (List.tail_suffix _), hmove⟩
  | cons char text =>
      by_cases hopen : char = '['
      · subst hopen
        exact tameAt_classMove_open hrest
      by_cases hclose : char = ']'
      · subst hclose
        exact tameAt_setRest (tame_pure _) (hrest ▸ List.suffix_cons _ _)
      by_cases hdouble : (char = '&' ∨ char = '-' ∨ char = '~') ∧ text.head? = some char
      · obtain ⟨hchar, hhead⟩ := hdouble
        obtain ⟨left, rfl⟩ := List.head?_eq_some_iff.mp hhead
        obtain ⟨operation, hmove⟩ : ∃ operation, ∀ text,
            classMove negated pending items flags (char :: char :: text) =
              advance >>= fun _ => advance >>= fun _ =>
                return .again (some (combine flags pending items, operation)) [] :=
          classMove_operation hchar
        have htwo : ∀ (next : Reader ClassMove) (scan' : Scan),
            (advance >>= fun _ => advance >>= fun _ => next).run scan' =
              next.run { scan' with rest := scan'.rest.tail.tail } := fun _ _ => rfl
        have hleft : ({ scan with rest := left } : Scan).rest <:+ scan.rest :=
          hrest ▸ (List.suffix_cons _ _).trans (List.suffix_cons _ _)
        refine .of_run hleft ?_ (fun tail _ => ?_)
          (tame_pure (ClassMove.again (some (combine flags pending items, operation)) [])
            _ trivial)
        · rw [hmove, htwo, hrest]
          rfl
        · rw [List.cons_append, List.cons_append, hmove, htwo, Scan.followedBy_rest, hrest]
          rfl
      · refine (tame_rangeMove pending items scan trivial).congr ?_ fun tail hclosing => ?_
        · rw [classMove_range hopen hclose fun hchar hhead => hdouble ⟨hchar, hhead⟩]
        · have hsingle : (char = '&' ∨ char = '-' ∨ char = '~') →
              (text ++ tail).head? ≠ some char := by
            intro hchar hhead
            refine hdouble ⟨hchar, (hclosing.head?_append ?_).mp hhead⟩
            rcases hchar with rfl | rfl | rfl <;> decide
          rw [List.cons_append, classMove_range hopen hclose hsingle]

/-- A step takes a character, a closing bracket if it closes the class. -/
theorem classMove_eq_ok [NamedSets] {scan final : Scan} {move : ClassMove}
    (hok : (classMove negated pending items flags scan.rest).run scan = .ok (move, final)) :
    final.rest <:+ scan.rest.tail ∧ scan.rest ≠ [] ∧
      ∀ members, move = .closed members → ']' ∈ scan.rest := by
  have hset : ∀ {left : List Char} {other : ClassMove},
      (setRest left >>= fun _ => (pure other : Reader ClassMove)).run scan =
        .ok (move, final) → other = move ∧ left = final.rest := by
    intro left other hother
    obtain ⟨rfl, rfl⟩ := run_pure_eq_ok_iff.mp
      ((run_setRest_bind left _ scan).symm.trans hother)
    exact ⟨rfl, rfl⟩
  have htwo : ∀ {other : ClassMove},
      (advance >>= fun _ => advance >>= fun _ => (pure other : Reader ClassMove)).run scan =
        .ok (move, final) → other = move ∧ final.rest <:+ scan.rest.tail := by
    intro other hother
    obtain ⟨_, middle, hfirst, hmore⟩ := run_bind_eq_ok_iff.mp hother
    obtain ⟨_, last, hsecond, hpure⟩ := run_bind_eq_ok_iff.mp hmore
    obtain ⟨hmove, rfl⟩ := run_pure_eq_ok_iff.mp hpure
    exact ⟨hmove, ((takes_advance.consumes hsecond).trans (List.tail_suffix _)).trans
      (takes_advance.consumes hfirst)⟩
  unfold classMove at hok
  split at hok
  next => cases hok
  next text hrest =>
    rw [hrest]
    unfold bracketMove at hok
    split at hok
    next hclass =>
      obtain ⟨rfl, hleft⟩ := hset hok
      exact ⟨hleft ▸ readAsciiClass?_suffix hclass, by simp, by simp⟩
    next =>
      obtain ⟨first, middle, hopen, hpure⟩ := run_bind_eq_ok_iff.mp hok
      obtain ⟨rfl, rfl⟩ := run_pure_eq_ok_iff.mp hpure
      exact ⟨hrest ▸ takes_readClassOpen.consumes hopen, by simp, by simp⟩
  next text hrest =>
    obtain ⟨rfl, hleft⟩ := hset hok
    rw [hrest]
    exact ⟨hleft ▸ List.suffix_refl _, by simp, by simp⟩
  next hrest =>
    obtain ⟨rfl, hleft⟩ := htwo hok
    exact ⟨hleft, by simp [hrest], by simp⟩
  next hrest =>
    obtain ⟨rfl, hleft⟩ := htwo hok
    exact ⟨hleft, by simp [hrest], by simp⟩
  next hrest =>
    obtain ⟨rfl, hleft⟩ := htwo hok
    exact ⟨hleft, by simp [hrest], by simp⟩
  next hempty _ _ _ _ _ =>
    obtain ⟨hrest, hmove⟩ := rangeMove_eq_ok hok
    exact ⟨hrest, hempty, fun members hsame => absurd hsame (hmove members)⟩

end ClassMove

theorem readClassBody_end [NamedSets] {scan : Scan} (hend : scan.rest = []) (fuel : Nat) (negated : Bool)
    (pending : Option (CodeRanges × SetOperation)) (items : CodeRanges) :
    (readClassBody fuel negated pending items).run scan = .error .unclosedClass := by
  cases fuel with
  | zero => rfl
  | succ fuel =>
      have hspace : afterSpace scan.flags [] = [] :=
        List.suffix_nil.mp (afterSpace_suffix scan.flags [])
      rw [readClassBody_succ, run_bind_of_ok (run_skipSpace scan), run_classStep, hend, hspace]
      rfl

section ClassBody

variable {fuel : Nat} {negated : Bool} {pending : Option (CodeRanges × SetOperation)}
  {items members : CodeRanges} {scan final : Scan}

/-- One step in a class, and what it comes to. -/
theorem readClassBody_eq_ok [NamedSets]
    (hok : (readClassBody (fuel + 1) negated pending items).run scan = .ok (members, final)) :
    ∃ move middle, middle.rest <:+ scan.rest ∧
      (∀ members, move = .closed members → ']' ∈ scan.rest) ∧
      (classAfter fuel negated pending items move).run middle = .ok (members, final) := by
  rw [readClassBody_succ, run_bind_of_ok (run_skipSpace scan), run_classStep] at hok
  obtain ⟨move, middle, hmove, hafter⟩ := run_bind_eq_ok_iff.mp hok
  obtain ⟨hleft, -, hclosed⟩ := classMove_eq_ok hmove
  have hspace := afterSpace_suffix scan.flags scan.rest
  exact ⟨move, middle, (hleft.trans (List.tail_suffix _)).trans hspace,
    fun members hsame => hspace.subset (hclosed members hsame), hafter⟩

/-- A class is read up to a closing bracket. -/
theorem mem_of_readClassBody [NamedSets]
    (hok : (readClassBody fuel negated pending items).run scan = .ok (members, final)) :
    ']' ∈ scan.rest := by
  induction fuel generalizing negated pending items members scan final with
  | zero => cases hok
  | succ fuel ih =>
      obtain ⟨move, middle, hleft, hclosed, hafter⟩ := readClassBody_eq_ok hok
      cases move with
      | closed members => exact hclosed members rfl
      | again pending items => exact hleft.subset (ih hafter)
      | nested inverted first =>
          obtain ⟨inner, last, hinner, -⟩ := run_bind_eq_ok_iff.mp hafter
          exact hleft.subset (ih hinner)

theorem mem_of_classAfter [NamedSets] {move : ClassMove} (hmove : ∀ members, move ≠ .closed members)
    (hok : (classAfter fuel negated pending items move).run scan = .ok (members, final)) :
    ']' ∈ scan.rest := by
  cases move with
  | closed members => exact absurd rfl (hmove members)
  | again pending items => exact mem_of_readClassBody hok
  | nested inverted first =>
      obtain ⟨inner, last, hinner, -⟩ := run_bind_eq_ok_iff.mp hok
      exact mem_of_readClassBody hinner

theorem classAfter_end [NamedSets] (hend : scan.rest = []) (fuel other : Nat) (move : ClassMove) :
    (classAfter fuel negated pending items move).run scan =
      (classAfter other negated pending items move).run scan := by
  cases move with
  | closed members => rfl
  | again pending items =>
      exact (readClassBody_end hend _ _ _ _).trans (readClassBody_end hend _ _ _ _).symm
  | nested inverted first =>
      exact (run_bind_of_error (readClassBody_end hend _ _ _ _)).trans
        (run_bind_of_error (readClassBody_end hend _ _ _ _)).symm

end ClassBody

/-- What follows a step in a class, if the bodies of classes in it are tame. -/
theorem tameAt_classAfter [NamedSets] {fuel : Nat} {more : List Char → Nat} {negated : Bool}
    {pending : Option (CodeRanges × SetOperation)} {items : CodeRanges} {scan : Scan}
    (hbody : ∀ negated pending items (last : Scan), last.rest.length ≤ scan.rest.length →
      TameAt Never last (readClassBody fuel negated pending items)
        fun tail => readClassBody (more tail) negated pending items) (move : ClassMove) :
    TameAt Never scan (classAfter fuel negated pending items move)
      fun tail => classAfter (more tail) negated pending items move := by
  cases move with
  | closed members => exact tame_pure members scan trivial
  | again pending items => exact hbody negated pending items scan (Nat.le_refl _)
  | nested inverted first =>
      have hinner := hbody inverted none first scan (Nat.le_refl _)
      refine hinner.bindAt (fun members last hok => ?_) (fun members last _ hend tail _ => ?_)
        fun _ _ _ _ hnever => hnever.elim
      · exact hbody _ _ _ last (hinner.shrinks _ _ hok).length_le
      · exact (readClassBody_end hend _ _ _ _).trans (readClassBody_end hend _ _ _ _).symm

/-- A step in a class, if what follows it is tame. -/
theorem tameAt_classStep [NamedSets] {fuel : Nat} {more : List Char → Nat} {negated : Bool}
    {pending : Option (CodeRanges × SetOperation)} {items : CodeRanges} {scan : Scan}
    (hafter : ∀ move (middle : Scan), middle.rest.length < scan.rest.length →
      TameAt Never middle (classAfter fuel negated pending items move)
        fun tail => classAfter (more tail) negated pending items move) :
    TameAt Never scan (classStep fuel negated pending items)
      fun tail => classStep (more tail) negated pending items := by
  refine .of_run (List.suffix_refl _) (run_classStep _ _ _ _ _)
    (fun tail _ => run_classStep _ _ _ _ _)
    ((tameAt_classMove scan).bindAt (fun move last hmove => ?_)
      (fun move last _ hend tail _ => classAfter_end hend _ _ _) ?_)
  · obtain ⟨hlast, hsome, -⟩ := classMove_eq_ok hmove
    have hlength := hlast.length_le
    have hpositive := List.length_pos_iff.mpr hsome
    rw [List.length_tail] at hlength
    exact hafter move last (by omega)
  · rintro tail hclosing move last ⟨hreached, hmove⟩ members final hok
    exact hclosing.not_mem (by decide) (by decide)
      (hreached.subset (mem_of_classAfter hmove hok))

theorem tameAt_readClassBody [NamedSets] {fuel : Nat} {more : List Char → Nat} (negated : Bool)
    (pending : Option (CodeRanges × SetOperation)) (items : CodeRanges) {scan : Scan}
    (hfuel : scan.rest.length < fuel) (hmore : ∀ tail, (scan.rest ++ tail).length < more tail) :
    TameAt Never scan (readClassBody fuel negated pending items)
      fun tail => readClassBody (more tail) negated pending items := by
  induction fuel generalizing more negated pending items scan with
  | zero => omega
  | succ fuel ih =>
      have hafter : ∀ move (middle : Scan), middle.rest.length < scan.rest.length →
          TameAt Never middle (classAfter fuel negated pending items move)
            fun tail => classAfter (more tail - 1) negated pending items move := by
        intro move middle hshorter
        refine tameAt_classAfter (fun negated pending items last hlast => ?_) move
        refine ih negated pending items (by omega) fun tail => ?_
        have hbound := hmore tail
        rw [List.length_append] at hbound ⊢
        omega
      have hstep : TameAt Never scan
          (skipSpace >>= fun _ => classStep fuel negated pending items)
          fun tail => skipSpace >>= fun _ => classStep (more tail - 1) negated pending items := by
        have hskip := tame_skipSpace scan trivial
        refine hskip.bindAt (fun _ middle hspace => ?_) (fun _ middle _ hend tail _ => ?_)
          fun _ _ _ _ hnever => hnever.elim
        · have hleft := (hskip.shrinks _ _ hspace).length_le
          exact tameAt_classStep fun move last hlast => hafter move last (by omega)
        · rw [run_classStep, run_classStep, hend]
          rfl
      refine hstep.congr ?_ fun tail _ => ?_
      · rw [readClassBody_succ]
      · obtain ⟨less, hless⟩ : ∃ less, more tail = less + 1 :=
          ⟨more tail - 1, by have := hmore tail; omega⟩
        rw [hless, readClassBody_succ, Nat.add_sub_cancel]

theorem takes_readClass [NamedSets] : Takes Never readClass := by
  have hbody : ∀ negated first, Tame Never (do
      let members ← readClassBody ((← rest).length + 1) negated none first
      setExpr (← get).flags members : Reader Expr) := by
    intro negated first
    refine tameOn_bind_rest fun scan _ => TameAt.bindNever (tameAt_readClassBody negated none first
      (Nat.lt_succ_self _) fun _ => Nat.lt_succ_self _) fun members => ?_
    exact tameOn_bind_get fun scan _ => tame_lift (setExpr scan.flags members) scan trivial
  refine takes_readClassOpen.bind (fun first => hbody first.1 first.2) ?_
  intro tail hclosing first middle hreached expr final hok
  rw [run_bind_of_ok (run_rest middle)] at hok
  obtain ⟨members, last, hmembers, -⟩ := run_bind_eq_ok_iff.mp hok
  exact hclosing.not_mem (by decide) (by decide)
    (hreached.subset (mem_of_readClassBody hmembers))

end EdgeGateway.Regex
