import EdgeGateway.Proofs.Regex.Classes
import EdgeGateway.Proofs.Regex.Openings

/-!
# Alternatives before a closing parenthesis

Alternatives are read part by part, and a group of them up to its parenthesis.  What
is read to the end of the text at one depth is read to the parenthesis behind it at
the next, unless a comment hides the parenthesis.  What fails to the end of the text
either passes that parenthesis or stops at one that nothing has opened.
-/

namespace EdgeGateway.Regex

open Reader
open Unicode (NamedSets)

/-! ## Parts -/

/-- A brace is left that only the parenthesis follows. -/
def Halted (tail : List Char) (final : Scan) : Prop :=
  ∃ left, final.rest = '{' :: left ∧ afterSpace final.flags left = tail

/-- What may come of a part that fails where a pattern ends. -/
def Parted : Excess Expr := fun tail _ final => final.rest <:+ tail.tail ∨ Halted tail final

/-- What follows the first character of a part. -/
def partAt [NamedSets] (flags : Flags) (char : Char) : Reader Expr :=
  match char with
  | '\\' => do primitiveExpr flags (← readEscape)
  | '.' => if flags.unicode then return .oneOf (dotMembers flags) else throw .notText
  | '^' => return .assertion (caretAssertion flags) flags.unicode
  | '$' => return .assertion (dollarAssertion flags) flags.unicode
  | _ => literalExpr flags char false

theorem run_readPart [NamedSets] (char : Char) (scan : Scan) :
    (readPart char).run scan = (advance >>= fun _ => partAt scan.flags char).run scan := by
  unfold readPart
  rw [run_bind_of_ok (run_get scan)]
  dsimp only
  refine congrArg (StateT.run · scan) (congrArg _ (funext fun _ => ?_))
  split
  next => rfl
  next => rfl
  next => rfl
  next => rfl
  next hescape hdot hcaret hdollar => rw [partAt] <;> assumption

theorem eq_of_run_lift {Value : Type} {attempt : Except SyntaxError Value} {value : Value}
    {scan final : Scan}
    (hok : (liftM attempt : Reader Value).run scan = .ok (value, final)) : scan = final := by
  cases attempt with
  | error error => cases hok
  | ok found => exact (run_pure_eq_ok_iff.mp hok).2

theorem tame_partAt [NamedSets] (flags : Flags) (char : Char) : Tame Parted (partAt flags char) := by
  unfold partAt
  split
  next =>
    refine fun scan _ => (tame_readEscape scan trivial).bind (fun _ => tame_lift _) ?_
    intro tail _ value middle hescaped expr final hok
    obtain rfl := eq_of_run_lift hok
    exact hescaped.imp_right fun hstopped => hstopped.2
  next =>
    split
    next => exact tame_pure _
    next => exact tame_throw _
  next => exact tame_pure _
  next => exact tame_pure _
  next => exact tame_lift _

theorem takes_readPart [NamedSets] (char : Char) : Takes Parted (readPart char) := by
  have hpart : ∀ flags, Takes Parted (advance >>= fun _ => partAt flags char) := fun flags =>
    takes_advance.bindNever fun _ => tame_partAt flags char
  refine ⟨fun {scan value final} hok => ?_, fun other scan hbefore => ?_⟩
  · exact (hpart scan.flags).consumes ((run_readPart char scan).symm.trans hok)
  · exact .of_run (List.suffix_refl _) (run_readPart char scan)
      (fun tail _ => run_readPart char (scan.followedBy tail))
      ((hpart scan.flags).tame other scan hbefore)

/-! ## Steps -/

/-- What one step over a part comes to. -/
inductive Move where
  | again (branches parts : List Expr) (repeatable : Bool)
  /-- A group has been opened; `outside` are the flags behind it. -/
  | nested (index : Option Nat) (outside : Flags)

def setFlags (flags : Flags) : Reader Unit :=
  modify fun scan => { scan with flags := flags }

theorem tame_setFlags {excess : Excess Unit} (flags : Flags) : Tame excess (setFlags flags) := by
  intro scan _
  have hrun : ∀ scan : Scan, (setFlags flags).run scan = .ok ((), { scan with flags := flags }) :=
    fun _ => rfl
  refine ⟨fun value final hok => ?_, .kept (hrun scan) fun tail _ => hrun _⟩
  obtain rfl : _ = final := by simpa using (hrun scan).symm.trans hok
  exact List.suffix_refl _

section Steps

variable (branches parts : List Expr) (repeatable : Bool)

/-- The last part is repeated. -/
def repeatMove (counts : Nat × Option Nat) (greedy : Bool) : Reader Move :=
  match parts with
  | [] => throw .nothingToRepeat
  | part :: earlier =>
      return .again branches (.iterate part counts.1 counts.2 greedy :: earlier) true

/-- What follows an opening. -/
def openMove (outside : Flags) : Opening → Reader Move
  | .flagsOnly flags => do
      setFlags flags
      return .again branches parts false
  | .plain flags => do
      setFlags flags
      return .nested none outside
  | .capturing index => return .nested (some index) outside

/-- A repetition whose sign is next. -/
def countMove (char : Char) : Reader Move :=
  if parts = [] ∨ !repeatable then throw .nothingToRepeat
  else if char = '{' then do
    let counts ← readCounts
    let greedy ← readGreed
    repeatMove branches parts counts greedy
  else do
    advance
    let greedy ← readGreed
    if char = '*' then repeatMove branches parts (0, none) greedy
    else if char = '+' then repeatMove branches parts (1, none) greedy
    else repeatMove branches parts (0, some 1) greedy

/-- A step over the part that starts with `char`. -/
def nextMove [NamedSets] (char : Char) : Reader Move :=
  if char = '|' then do
    advance
    return .again (Expr.sequence parts.reverse :: branches) [] false
  else if char = '(' then do
    advance
    let scan ← get
    let opening ← readOpening
    openMove branches parts scan.flags opening
  else if char = '[' then do
    let set ← readClass
    return .again branches (set :: parts) true
  else if char = '*' ∨ char = '+' ∨ char = '?' ∨ char = '{' then
    countMove branches parts repeatable char
  else do
    let part ← readPart char
    return .again branches (part :: parts) true

/-- The scan behind the parenthesis that closes a group. -/
def Scan.closed (scan : Scan) (outside : Flags) : Scan :=
  { scan with flags := outside, rest := scan.rest.tail }

/-- What follows a step. -/
def afterMove [NamedSets] (fuel depth : Nat) : Move → Reader Expr
  | .again branches parts repeatable => readBranches fuel depth branches parts repeatable
  | .nested index outside => do
      let inner ← readBranches fuel (depth + 1) [] [] false
      modify fun scan => scan.closed outside
      readBranches fuel depth branches (.group index inner :: parts) true

/-- The alternatives that have been read. -/
def finished : Expr := Expr.choice (Expr.sequence parts.reverse :: branches).reverse

/-- What follows space. -/
def branchStep [NamedSets] (fuel depth : Nat) : Option Char → Reader Expr
  | none => if depth = 0 then return finished branches parts else throw .unclosedGroup
  | some ')' => if depth = 0 then throw .unopenedGroup else return finished branches parts
  | some char => do
      let move ← nextMove branches parts repeatable char
      afterMove branches parts fuel depth move

theorem countMove_after [NamedSets] (fuel depth : Nat) (char : Char) :
    countMove branches parts repeatable char >>= afterMove branches parts fuel depth =
      if parts = [] ∨ !repeatable then throw .nothingToRepeat
      else if char = '{' then readCounts >>= fun counts => readGreed >>= fun greedy =>
        repeatMove branches parts counts greedy >>= afterMove branches parts fuel depth
      else advance >>= fun _ => readGreed >>= fun greedy =>
        if char = '*' then
          repeatMove branches parts (0, none) greedy >>= afterMove branches parts fuel depth
        else if char = '+' then
          repeatMove branches parts (1, none) greedy >>= afterMove branches parts fuel depth
        else
          repeatMove branches parts (0, some 1) greedy >>=
            afterMove branches parts fuel depth := by
  unfold countMove
  split
  next => rfl
  next =>
    split
    next => simp only [bind_assoc]
    next =>
      simp only [bind_assoc]
      refine congrArg _ (funext fun _ => congrArg _ (funext fun greedy => ?_))
      split
      next => rfl
      next => split <;> rfl

theorem readBranches_succ [NamedSets] (fuel depth : Nat) :
    readBranches (fuel + 1) depth branches parts repeatable =
      skipSpace >>= fun _ => peek >>= branchStep branches parts repeatable fuel depth := by
  rw [readBranches]
  refine congrArg _ (funext fun _ => ?_)
  dsimp only
  refine congrArg _ (funext fun next => ?_)
  unfold branchStep
  split
  next => rfl
  next => rfl
  next => rfl
  next =>
    change _ = nextMove branches parts repeatable '(' >>=
      afterMove branches parts fuel depth
    simp only [nextMove, Char.reduceEq, reduceIte, bind_assoc]
    refine congrArg _ (funext fun _ => congrArg _ (funext fun scan =>
      congrArg _ (funext fun opening => ?_)))
    cases opening <;> rfl
  next =>
    change _ = nextMove branches parts repeatable '[' >>=
      afterMove branches parts fuel depth
    simp only [nextMove, Char.reduceEq, reduceIte, bind_assoc]
    rfl
  next char hclose hbar hopen hbracket =>
    simp only [nextMove, if_neg hbar, if_neg hopen, if_neg hbracket]
    split
    next =>
      rw [countMove_after]
      split
      next => rfl
      next hsome =>
        obtain ⟨part, earlier, rfl⟩ :=
          List.exists_cons_of_ne_nil fun hempty => hsome (Or.inl hempty)
        rfl
    next =>
      simp only [bind_assoc]
      rfl

/-- What may come of a step that fails where a pattern ends. -/
def Advanced : Excess Move := fun tail move final =>
  final.rest <:+ tail.tail ∨
    Halted tail final ∧ ∃ branches parts repeatable, move = .again branches parts repeatable

theorem tame_repeatMove {excess : Excess Move} (counts : Nat × Option Nat) (greedy : Bool) :
    Tame excess (repeatMove branches parts counts greedy) := by
  cases parts with
  | nil => exact tame_throw _
  | cons part earlier => exact tame_pure _

theorem tame_openMove (outside : Flags) (opening : Opening) :
    Tame Past (openMove branches parts outside opening) := by
  cases opening with
  | capturing index => exact tame_pure _
  | plain flags =>
      exact (tame_setFlags flags).bindNever fun _ => tame_pure _
  | flagsOnly flags =>
      exact (tame_setFlags flags).bindNever fun _ => tame_pure _

theorem takes_countMove (char : Char) :
    Takes Advanced (countMove branches parts repeatable char) := by
  unfold countMove
  split
  next => exact takes_throw _
  split
  next =>
    exact takes_readCounts.bindNever fun counts =>
      tame_readGreed.bindNever fun greedy => tame_repeatMove branches parts counts greedy
  next =>
    refine takes_advance.bindNever fun _ => tame_readGreed.bindNever fun greedy => ?_
    split
    next => exact tame_repeatMove branches parts _ greedy
    split
    next => exact tame_repeatMove branches parts _ greedy
    next => exact tame_repeatMove branches parts _ greedy

theorem takes_nextMove [NamedSets] (char : Char) :
    Takes Advanced (nextMove branches parts repeatable char) := by
  unfold nextMove
  split
  next => exact takes_advance.bindNever fun _ => tame_pure _
  split
  next =>
    refine takes_advance.bindNever fun _ => tameOn_bind_get fun scan _ => ?_
    exact ((tame_readOpening scan trivial).bindPast
      (tame_openMove branches parts scan.flags)).mono fun _ _ _ => Or.inl
  split
  next => exact takes_readClass.bindNever fun _ => tame_pure _
  split
  next => exact takes_countMove branches parts repeatable char
  next =>
    refine (takes_readPart char).bind (fun _ => tame_pure _) ?_
    intro tail _ part middle hparted move final hok
    obtain ⟨rfl, rfl⟩ := run_pure_eq_ok_iff.mp hok
    exact hparted.imp_right fun hhalted => ⟨hhalted, _, _, _, rfl⟩

end Steps

/-! ## Whole alternatives -/

/-- The scan behind space. -/
def Scan.spaced (scan : Scan) : Scan :=
  { scan with rest := afterSpace scan.flags scan.rest }

theorem Scan.spaced_suffix (scan : Scan) : scan.spaced.rest <:+ scan.rest :=
  afterSpace_suffix scan.flags scan.rest

section Branches

variable [NamedSets] {fuel depth : Nat} {branches parts : List Expr} {repeatable : Bool}
  {expr : Expr} {scan final : Scan}

theorem run_readBranches_succ (scan : Scan) :
    (readBranches (fuel + 1) depth branches parts repeatable).run scan =
      (branchStep branches parts repeatable fuel depth scan.spaced.rest.head?).run
        scan.spaced := by
  rw [readBranches_succ, run_bind_of_ok (run_skipSpace scan), run_bind_of_ok (run_peek _)]
  rfl

theorem branchStep_some {char : Char} (hchar : char ≠ ')') :
    branchStep branches parts repeatable fuel depth (some char) =
      nextMove branches parts repeatable char >>= afterMove branches parts fuel depth := by
  rw [branchStep]
  exact hchar

theorem run_afterMove_nested {index : Option Nat} {outside : Flags} {inner : Expr}
    {middle : Scan}
    (hinner : (readBranches fuel (depth + 1) [] [] false).run scan = .ok (inner, middle)) :
    (afterMove branches parts fuel depth (.nested index outside)).run scan =
      (readBranches fuel depth branches (.group index inner :: parts) true).run
        (middle.closed outside) :=
  run_bind_of_ok hinner

/-- Alternatives end where the text does or before the parenthesis that closes them. -/
theorem readBranches_eq_ok
    (hok : (readBranches fuel depth branches parts repeatable).run scan = .ok (expr, final)) :
    final.rest <:+ scan.rest ∧ final.rest.head? = if depth = 0 then none else some ')' := by
  induction fuel generalizing depth branches parts repeatable expr scan final with
  | zero => cases hok
  | succ fuel ih =>
      rw [run_readBranches_succ] at hok
      cases hhead : scan.spaced.rest.head? with
      | none =>
          rw [hhead] at hok
          by_cases hzero : depth = 0
          · rw [branchStep, if_pos hzero] at hok
            obtain ⟨-, rfl⟩ := run_pure_eq_ok_iff.mp hok
            exact ⟨scan.spaced_suffix, by rw [hhead, if_pos hzero]⟩
          · rw [branchStep, if_neg hzero] at hok
            cases hok
      | some char =>
          rw [hhead] at hok
          by_cases hclose : char = ')'
          · subst hclose
            by_cases hzero : depth = 0
            · rw [branchStep, if_pos hzero] at hok
              cases hok
            · rw [branchStep, if_neg hzero] at hok
              obtain ⟨-, rfl⟩ := run_pure_eq_ok_iff.mp hok
              exact ⟨scan.spaced_suffix, by rw [hhead, if_neg hzero]⟩
          rw [branchStep_some hclose] at hok
          obtain ⟨move, middle, hmove, hafter⟩ := run_bind_eq_ok_iff.mp hok
          have hmiddle : middle.rest <:+ scan.rest :=
            (((takes_nextMove branches parts repeatable char).consumes hmove).trans
              (List.tail_suffix _)).trans scan.spaced_suffix
          cases move with
          | again branches parts repeatable =>
              obtain ⟨hleft, hend⟩ := ih hafter
              exact ⟨hleft.trans hmiddle, hend⟩
          | nested index outside =>
              obtain ⟨inner, last, hinner, -⟩ := run_bind_eq_ok_iff.mp hafter
              rw [run_afterMove_nested hinner] at hafter
              obtain ⟨hleft, hend⟩ := ih hafter
              have hlast := (ih hinner).1
              exact ⟨((hleft.trans (List.tail_suffix _)).trans hlast).trans hmiddle, hend⟩

theorem afterMove_suffix {move : Move}
    (hok : (afterMove branches parts fuel depth move).run scan = .ok (expr, final)) :
    final.rest <:+ scan.rest := by
  cases move with
  | again branches parts repeatable => exact (readBranches_eq_ok hok).1
  | nested index outside =>
      obtain ⟨inner, last, hinner, -⟩ := run_bind_eq_ok_iff.mp hok
      rw [run_afterMove_nested hinner] at hok
      exact ((readBranches_eq_ok hok).1.trans (List.tail_suffix _)).trans
        (readBranches_eq_ok hinner).1

theorem run_readBranches_end (depth : Nat) (branches parts : List Expr) (repeatable : Bool)
    (hfuel : 0 < fuel) (hend : scan.rest = []) :
    (readBranches fuel depth branches parts repeatable).run scan =
      if depth = 0 then .ok (finished branches parts, scan) else .error .unclosedGroup := by
  obtain ⟨less, rfl⟩ := Nat.exists_eq_succ_of_ne_zero (Nat.ne_of_gt hfuel)
  have hspace : afterSpace scan.flags scan.rest = scan.rest := by
    rw [hend]
    exact List.suffix_nil.mp (afterSpace_suffix scan.flags [])
  have hspaced : scan.spaced = scan := by rw [Scan.spaced, hspace]
  rw [run_readBranches_succ, hspaced, hend, List.head?_nil, branchStep]
  split <;> rfl

/-- A brace that only the parenthesis follows opens no count. -/
theorem readBranches_halted {tail : List Char} (hclosing : Closing tail)
    (hhalted : Halted tail scan) :
    (readBranches fuel depth branches parts repeatable).run scan ≠ .ok (expr, final) := by
  intro hok
  obtain ⟨left, hrest, hleft⟩ := hhalted
  cases fuel with
  | zero => cases hok
  | succ fuel =>
      have hbrace : scan.spaced.rest = '{' :: left := by
        rw [Scan.spaced, hrest]
        unfold afterSpace
        split <;> rfl
      rw [run_readBranches_succ, hbrace, List.head?_cons,
        branchStep_some (by decide)] at hok
      obtain ⟨move, middle, hmove, -⟩ := run_bind_eq_ok_iff.mp hok
      have hcount : (countMove branches parts repeatable '{').run scan.spaced =
        .ok (move, middle) := hmove
      rw [countMove] at hcount
      split at hcount
      next => cases hcount
      rw [if_pos rfl] at hcount
      obtain ⟨counts, last, hcounts, -⟩ := run_bind_eq_ok_iff.mp hcount
      refine readCounts_of_inert ?_ hcounts
      rw [hbrace]
      exact hleft ▸ hclosing.plain

end Branches

end EdgeGateway.Regex
