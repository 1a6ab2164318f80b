import EdgeGateway.Proofs.Regex.Parts
import EdgeGateway.Proofs.Text.Pieces

/-!
# Counts and openings before a closing parenthesis

Counts in braces need their brace and names of groups their bracket, and neither is
behind a pattern.  Flags end at a parenthesis, so that they can take the one behind
the pattern.
-/

namespace EdgeGateway.Regex

open Reader

/-! ## Counts -/

theorem dropWhile_append_closing {tail : List Char} (hclosing : Closing tail)
    {drop : Char → Bool} (hdrop : drop ')' = false) (text : List Char) :
    (text ++ tail).dropWhile drop = text.dropWhile drop ++ tail := by
  obtain ⟨more, rfl⟩ := hclosing.exists_cons
  induction text with
  | nil => simp [hdrop]
  | cons char text ih => cases hchar : drop char <;> simp [hchar, ih]

theorem takeWhile_append_closing {tail : List Char} (hclosing : Closing tail)
    {keep : Char → Bool} (hkeep : keep ')' = false) (text : List Char) :
    (text ++ tail).takeWhile keep = text.takeWhile keep := by
  obtain ⟨more, rfl⟩ := hclosing.exists_cons
  induction text with
  | nil => simp [hkeep]
  | cons char text ih => cases hchar : keep char <;> simp [hchar, ih]

/-- The digits of a count. -/
def countDigits (text : List Char) : List Char :=
  (text.dropWhile Text.isBlank).takeWhile Text.isAsciiDigit

/-- What follows the digits of a count. -/
def afterDigits (text : List Char) : List Char :=
  ((text.dropWhile Text.isBlank).drop (countDigits text).length).dropWhile Text.isBlank

/-- The value of the digits of a count. -/
def countOf (digits : List Char) : Reader (Option Nat) :=
  if digits = [] then return none
  else
    match Text.readDigits Text.limit32 0 digits with
    | .ok value => return some value
    | .error _ => throw .invalidCount

theorem run_readCount (scan : Scan) :
    readCount.run scan =
      (skipSpace >>= fun _ => countOf (countDigits scan.rest)).run
        { scan with rest := afterDigits scan.rest } := rfl

theorem afterDigits_suffix (text : List Char) : afterDigits text <:+ text :=
  ((List.dropWhile_suffix _).trans (List.drop_suffix _ _)).trans (List.dropWhile_suffix _)

theorem countDigits_append {tail : List Char} (hclosing : Closing tail) (text : List Char) :
    countDigits (text ++ tail) = countDigits text := by
  rw [countDigits, dropWhile_append_closing hclosing (by decide),
    takeWhile_append_closing hclosing (by decide), countDigits]

theorem afterDigits_append {tail : List Char} (hclosing : Closing tail) (text : List Char) :
    afterDigits (text ++ tail) = afterDigits text ++ tail := by
  have hlength : (countDigits text).length ≤ (text.dropWhile Text.isBlank).length :=
    (List.takeWhile_prefix _).length_le
  rw [afterDigits, countDigits_append hclosing, dropWhile_append_closing hclosing (by decide),
    List.drop_append_of_le_length hlength, dropWhile_append_closing hclosing (by decide),
    afterDigits]

theorem tame_countOf {excess : Excess (Option Nat)} (digits : List Char) :
    Tame excess (countOf digits) := by
  unfold countOf
  split
  next => exact tame_pure _
  next =>
    split
    next => exact tame_pure _
    next => exact tame_throw _

theorem tame_readCount : Tame Never readCount := fun scan _ => by
  have hcount : Tame Never (skipSpace >>= fun _ => countOf (countDigits scan.rest)) :=
    tame_skipSpace.bindNever fun _ => tame_countOf _
  refine .of_run (afterDigits_suffix scan.rest) (run_readCount scan) (fun tail hclosing => ?_)
    (hcount { scan with rest := afterDigits scan.rest } trivial)
  rw [run_readCount, Scan.followedBy_rest, countDigits_append hclosing,
    afterDigits_append hclosing]
  rfl

/-- Text in which neither a count nor its end can be found. -/
def Inert (text : List Char) : Prop := ∀ char ∈ text, char = ')' ∨ char = '$'

theorem Inert.of_suffix {text left : List Char} (hinert : Inert text) (hleft : left <:+ text) :
    Inert left := fun char hmem => hinert char (hleft.subset hmem)

theorem Inert.head?_ne {text : List Char} (hinert : Inert text) {char : Char}
    (hparenthesis : char ≠ ')') (hdollar : char ≠ '$') : text.head? ≠ some char := fun hhead => by
  rcases hinert char (List.mem_of_mem_head? hhead) with hsame | hsame
  · exact hparenthesis hsame
  · exact hdollar hsame

theorem countDigits_of_inert {text : List Char} (hinert : Inert text) :
    countDigits text = [] := by
  cases text with
  | nil => rfl
  | cons char text =>
      rcases hinert char List.mem_cons_self with rfl | rfl <;> rfl

theorem readCount_of_inert {scan final : Scan} {count : Option Nat}
    (hinert : Inert scan.rest) (hok : readCount.run scan = .ok (count, final)) :
    count = none := by
  rw [run_readCount, countDigits_of_inert hinert] at hok
  obtain ⟨_, _, -, hcount⟩ := run_bind_eq_ok_iff.mp hok
  exact (run_pure_eq_ok_iff.mp hcount).1.symm

/-- The upper bound of a count, up to the closing brace. -/
def upperCount (least : Nat) : Reader (Nat × Option Nat) := do
  match ← readCount with
  | none => throw .emptyCount
  | some most =>
      let next ← peek
      if next ≠ some '}' then throw .unclosedCount
      else do
        step
        if most < least then throw .invalidCount else return (least, some most)

/-- What follows the comma of a count. -/
def countRange (least : Option Nat) : Reader (Nat × Option Nat) := do
  match ← peek with
  | none => throw .unclosedCount
  | some '}' =>
      match least with
      | none => throw .emptyCount
      | some least =>
          step
          return (least, none)
  | some _ =>
      match least with
      | none => throw .emptyCount
      | some least => upperCount least

/-- What follows the first number of a count. -/
def countFrom (least : Option Nat) : Reader (Nat × Option Nat) := do
  match ← peek with
  | none => throw .unclosedCount
  | some ',' =>
      step
      countRange least
  | some char =>
      match least with
      | none => throw .emptyCount
      | some least =>
          if char ≠ '}' then throw .unclosedCount
          else do
            step
            return (least, some least)

theorem readCounts_eq :
    readCounts = step >>= fun _ => peek >>= fun next =>
      if next.isNone then throw .unclosedCount else readCount >>= countFrom := by
  unfold readCounts
  refine congrArg _ (funext fun _ => congrArg _ (funext fun next => ?_))
  dsimp only
  split <;> rfl

theorem tame_upperCount (least : Nat) : Tame Never (upperCount least) := by
  refine tame_readCount.bindNever fun count => ?_
  cases count with
  | none => exact tame_throw _
  | some most =>
      refine tame_bind_peek (fun char => ?_) fun scan _ => ?_
      · split
        next => exact (tame_throw _).only
        next =>
          refine (takes_step.bindNever fun _ => ?_).tame char
          split
          · exact tame_throw _
          · exact tame_pure _
      · exact .of_error rfl fun _ _ _ _ hok => by cases hok

theorem upperCount_of_inert {least : Nat} {scan final : Scan} {counts : Nat × Option Nat}
    (hinert : Inert scan.rest) : (upperCount least).run scan ≠ .ok (counts, final) := fun hok => by
  obtain ⟨count, middle, hcount, hmore⟩ := run_bind_eq_ok_iff.mp hok
  obtain rfl := readCount_of_inert hinert hcount
  cases hmore

theorem tame_countRange (least : Option Nat) : Tame Never (countRange least) := by
  refine tame_bind_peek (fun char => ?_) fun scan hend => ?_
  · split
    next heq => cases heq
    next =>
      cases least with
      | none => exact (tame_throw _).only
      | some least => exact (takes_step.bindNever fun _ => tame_pure _).tame char
    next =>
      cases least with
      | none => exact (tame_throw _).only
      | some least => exact (tame_upperCount least).only
  · refine .of_error rfl fun tail hclosing counts final hok => ?_
    have hinert : Inert (scan.followedBy tail).rest := by
      rw [Scan.followedBy_rest, show scan.rest = [] from hend]
      exact hclosing.plain
    cases least with
    | none => cases hok
    | some least => exact upperCount_of_inert hinert hok

theorem tame_countFrom (least : Option Nat) : Tame Never (countFrom least) := by
  refine tame_bind_peek (fun char => ?_) fun scan _ => ?_
  · split
    next heq => cases heq
    next => exact (takes_step.bindNever fun _ => tame_countRange least).tame char
    next =>
      cases least with
      | none => exact (tame_throw _).only
      | some least =>
          dsimp only
          split
          next => exact (tame_throw _).only
          next => exact (takes_step.bindNever fun _ => tame_pure _).tame char
  · refine .of_error rfl fun tail hclosing counts final hok => ?_
    cases least <;> cases hok

/-- A count is not found in the text behind a pattern. -/
theorem countFrom_of_inert {scan final : Scan} {counts : Nat × Option Nat}
    (hinert : Inert scan.rest) :
    (readCount >>= countFrom).run scan ≠ .ok (counts, final) := fun hok => by
  obtain ⟨count, middle, hcount, hmore⟩ := run_bind_eq_ok_iff.mp hok
  have hmiddle : Inert middle.rest := hinert.of_suffix (tame_readCount.shrinks hcount)
  obtain rfl := readCount_of_inert hinert hcount
  rw [countFrom, run_bind_of_ok (run_peek middle)] at hmore
  split at hmore
  next => cases hmore
  next hcomma => exact hmiddle.head?_ne (by decide) (by decide) hcomma
  next => cases hmore

theorem takes_readCounts : Takes Never readCounts := by
  rw [readCounts_eq]
  refine takes_step.bindNever fun _ => tame_bind_peek (fun char => ?_) fun scan hend => ?_
  · exact (tame_readCount.bindNever tame_countFrom).only
  · refine .of_error rfl fun tail hclosing counts final hok => countFrom_of_inert ?_ hok
    rw [Scan.followedBy_rest, show scan.rest = [] from hend]
    exact hclosing.plain

theorem run_step (scan : Scan) :
    step.run scan = .ok ((), { scan with rest := afterSpace scan.flags scan.rest.tail }) := rfl

/-- The counts in braces are not found in the text behind a pattern. -/
theorem readCounts_of_inert {scan final : Scan} {counts : Nat × Option Nat}
    (hinert : Inert (afterSpace scan.flags scan.rest.tail)) :
    readCounts.run scan ≠ .ok (counts, final) := fun hok => by
  rw [readCounts_eq] at hok
  rw [run_bind_of_ok (run_step scan), run_bind_of_ok (run_peek _)] at hok
  split at hok
  next => cases hok
  next => exact countFrom_of_inert hinert hok

theorem tame_readGreed : Tame Never readGreed := by
  refine tameOn_bind_get fun scan _ =>
    tame_bind_peek (fun char => ?_) (fun last _ => ?_) scan trivial
  · split
    next => exact (takes_advance.bindNever fun _ => tame_pure _).tame char
    next => exact (tame_pure _).only
  · exact tame_pure _ last trivial

/-! ## Names of groups -/

/-- The name of a group that has been found, with what follows its bracket. -/
def nameOf (first : Char) (others left : List Char) : Reader String :=
  if !(isNameStart first && others.all isNameChar) then throw .invalidGroupName
  else do
    let name := String.ofList (first :: others)
    let scan ← get
    if scan.groupNames.any fun (known, _) => known = name then
      throw (.duplicateGroupName name)
    else do
      setRest left
      return name

/-- What is made of the text up to a bracket. -/
def nameAt : Option (List Char × List Char) → Reader String
  | none => throw .invalidGroupName
  | some ([], _) => throw .emptyGroupName
  | some (first :: others, left) => nameOf first others left

theorem readGroupName_eq :
    readGroupName = rest >>= fun text => nameAt (Text.splitAtFirst? '>' text) := by
  unfold readGroupName
  refine congrArg _ (funext fun text => ?_)
  split
  next hsplit => rw [hsplit]; rfl
  next hsplit => rw [hsplit]; rfl
  next hsplit =>
    rw [hsplit, nameAt, nameOf]
    split <;> rfl

theorem tameAt_nameOf (first : Char) (others : List Char) {left : List Char} {scan : Scan}
    (hleft : left <:+ scan.rest) :
    TameAt Never scan (nameOf first others left)
      fun tail => nameOf first others (left ++ tail) := by
  unfold nameOf
  split
  next => exact tame_throw _ scan trivial
  next =>
    refine .of_run (List.suffix_refl _) (run_bind_of_ok (run_get scan))
      (fun tail _ => run_bind_of_ok (run_get _)) ?_
    by_cases hknown : scan.groupNames.any fun (known, _) => known = String.ofList (first :: others)
    · exact (tame_throw (.duplicateGroupName (String.ofList (first :: others))) scan
        trivial).congr (if_pos hknown) fun tail _ => if_pos hknown
    · exact (tameAt_setRest (tame_pure (String.ofList (first :: others))) hleft).congr
        (if_neg hknown) fun tail _ => if_neg hknown

theorem tame_readGroupName : Tame Never readGroupName := by
  rw [readGroupName_eq]
  refine tameOn_bind_rest fun scan _ => ?_
  have hbracket : ∀ tail, Closing tail → '>' ∉ tail := fun tail hclosing =>
    hclosing.not_mem (by decide) (by decide)
  have hsplit := fun tail hclosing =>
    Text.splitAtFirst?_append_tail (hbracket tail hclosing) scan.rest
  cases hfound : Text.splitAtFirst? '>' scan.rest with
  | none =>
      refine (tame_throw .invalidGroupName scan trivial).congr rfl fun tail hclosing => ?_
      rw [hsplit tail hclosing, hfound]
      rfl
  | some found =>
      obtain ⟨name, left⟩ := found
      cases name with
      | nil =>
          refine (tame_throw .emptyGroupName scan trivial).congr rfl fun tail hclosing => ?_
          rw [hsplit tail hclosing, hfound]
          rfl
      | cons first others =>
          have hleft : left <:+ scan.rest := by
            rw [(Text.splitAtFirst?_eq_some_iff.mp hfound).2]
            exact (List.suffix_cons _ _).trans (List.suffix_append _ _)
          refine (tameAt_nameOf first others hleft).congr rfl fun tail hclosing => ?_
          rw [hsplit tail hclosing, hfound]
          rfl

/-- The scan in which a group has been opened. -/
def Scan.opened (scan : Scan) (name : Option String) : Scan :=
  { scan with
    groupCount := scan.groupCount + 1
    groupNames :=
      match name with
      | some name => scan.groupNames ++ [(name, scan.groupCount + 1)]
      | none => scan.groupNames }

theorem tame_openGroup {excess : Excess Nat} (name : Option String) :
    Tame excess (openGroup name) := by
  intro scan _
  have hrun : ∀ scan, (openGroup name).run scan =
      .ok (scan.groupCount + 1, scan.opened name) := fun _ => rfl
  refine ⟨fun index final hok => ?_, .kept (hrun scan) fun tail _ => hrun _⟩
  obtain ⟨-, rfl⟩ : _ ∧ scan.opened name = final := by simpa using (hrun scan).symm.trans hok
  exact List.suffix_refl _

/-! ## Flags and openings -/

/-- What a letter does depends on the letters before it only. -/
theorem readFlagLetters_cons (flags : Flags) (negated : Bool) (seen : List Char) (char : Char) :
    (∃ error, ∀ text, readFlagLetters flags negated seen (char :: text) = .error error) ∨
      (∃ any, ∀ text,
        readFlagLetters flags negated seen (char :: text) = .ok (flags, any, char :: text)) ∨
      ∃ flags' negated' seen', ∀ text,
        readFlagLetters flags negated seen (char :: text) =
          readFlagLetters flags' negated' seen' text := by
  by_cases hend : char = ':' ∨ char = ')'
  · by_cases hsign : seen.head? = some '-'
    · exact Or.inl ⟨.invalidFlag, fun text => by simp [readFlagLetters, hend, hsign]⟩
    · exact Or.inr (Or.inl ⟨!seen.isEmpty, fun text => by simp [readFlagLetters, hend, hsign]⟩)
  by_cases hminus : char = '-'
  · cases negated with
    | true => exact Or.inl ⟨.invalidFlag, fun text => by simp [readFlagLetters, hminus]⟩
    | false =>
        exact Or.inr (Or.inr ⟨flags, true, '-' :: seen, fun text => by
          simp [readFlagLetters, hminus]⟩)
  by_cases hseen : seen.contains char
  · exact Or.inl ⟨.invalidFlag, fun text => by
      rw [readFlagLetters, if_neg hend, if_neg hminus, if_pos hseen]⟩
  cases hflag : setFlag flags char (!negated) with
  | none =>
      exact Or.inl ⟨.invalidFlag, fun text => by
        rw [readFlagLetters, if_neg hend, if_neg hminus, if_neg hseen, hflag]⟩
  | some flags' =>
      exact Or.inr (Or.inr ⟨flags', negated, char :: seen, fun text => by
        rw [readFlagLetters, if_neg hend, if_neg hminus, if_neg hseen, hflag]⟩)

theorem readFlagLetters_eq_ok {flags found : Flags} {negated any : Bool}
    {seen text left : List Char}
    (hread : readFlagLetters flags negated seen text = .ok (found, any, left)) :
    left <:+ text ∧ left ≠ [] := by
  induction text generalizing flags negated seen with
  | nil => simp [readFlagLetters] at hread
  | cons char text ih =>
      rcases readFlagLetters_cons flags negated seen char with
        ⟨error, hfail⟩ | ⟨any', hend⟩ | ⟨flags', negated', seen', hgo⟩
      · rw [hfail] at hread
        cases hread
      · rw [hend] at hread
        obtain ⟨-, -, rfl⟩ : _ ∧ _ ∧ char :: text = left := by simpa using hread
        exact ⟨List.suffix_refl _, List.cons_ne_nil _ _⟩
      · rw [hgo] at hread
        exact ⟨(ih hread).1.trans (List.suffix_cons _ _), (ih hread).2⟩

/-- Flags end where they end alone, or they end at the parenthesis behind them. -/
theorem readFlagLetters_append {tail : List Char} (hclosing : Closing tail) (flags : Flags)
    (negated : Bool) (seen text : List Char) :
    match readFlagLetters flags negated seen text with
    | .ok (found, any, left) =>
        readFlagLetters flags negated seen (text ++ tail) = .ok (found, any, left ++ tail)
    | .error _ => ∀ found any left,
        readFlagLetters flags negated seen (text ++ tail) = .ok (found, any, left) →
          left = tail := by
  induction text generalizing flags negated seen with
  | nil =>
      obtain ⟨more, rfl⟩ := hclosing.exists_cons
      intro found any left hread
      rw [List.nil_append, readFlagLetters, if_pos (Or.inr rfl)] at hread
      split at hread
      next => cases hread
      next => exact (Prod.mk.inj (Prod.mk.inj (Except.ok.inj hread)).2).2.symm
  | cons char text ih =>
      rw [List.cons_append]
      rcases readFlagLetters_cons flags negated seen char with
        ⟨error, hfail⟩ | ⟨any, hend⟩ | ⟨flags', negated', seen', hgo⟩
      · rw [hfail, hfail]
        intro found any left hread
        cases hread
      · rw [hend, hend]
        rfl
      · rw [hgo, hgo]
        exact ih flags' negated' seen'

/-- What follows the flags of a group. -/
def flaggedAt : Except SyntaxError (Flags × Bool × List Char) → Reader Opening
  | .error error => throw error
  | .ok (flags, any, left) => do
      setRest left.tail
      if left.head? = some ')' then
        if any then return .flagsOnly flags else throw .nothingToRepeat
      else return .plain flags

/-- An opening with flags, behind the question mark. -/
def flaggedOpening (text : List Char) : Reader Opening :=
  if text = [] then throw .unclosedGroup
  else do
    let scan ← get
    flaggedAt (readFlagLetters scan.flags false [] text)

def namedOpening (text : List Char) : Reader Opening := do
  setRest text
  let name ← readGroupName
  return .capturing (← openGroup (some name))

/-- What follows an opening parenthesis and space. -/
def openingAt : List Char → Reader Opening
  | '?' :: '=' :: _ => throw .lookAround
  | '?' :: '!' :: _ => throw .lookAround
  | '?' :: '<' :: '=' :: _ => throw .lookAround
  | '?' :: '<' :: '!' :: _ => throw .lookAround
  | '?' :: 'P' :: '<' :: text => namedOpening text
  | '?' :: '<' :: text => namedOpening text
  | '?' :: text => flaggedOpening text
  | _ => do return .capturing (← openGroup none)

theorem readOpening_eq :
    readOpening = skipSpace >>= fun _ => rest >>= openingAt := by
  unfold readOpening
  refine congrArg _ (funext fun _ => congrArg _ (funext fun text => ?_))
  split <;> try rfl
  next =>
    rw [openingAt]
    · rfl
    all_goals assumption
  next =>
    rw [openingAt]
    · unfold flaggedOpening
      split
      · rfl
      · dsimp only
        refine congrArg _ (funext fun scan => ?_)
        cases readFlagLetters scan.flags false [] _ <;> rfl
    all_goals assumption
  next =>
    rw [openingAt]
    all_goals assumption

/-- The text has no mark of an opening but flags. -/
structure Unmarked (text : List Char) : Prop where
  ahead : text.head? ≠ some '='
  apart : text.head? ≠ some '!'
  named : text.head? ≠ some '<'
  long : text.head? = some 'P' → text.tail.head? ≠ some '<'

theorem openingAt_unmarked {text : List Char} (hunmarked : Unmarked text) :
    openingAt ('?' :: text) = flaggedOpening text := by
  obtain ⟨hahead, hapart, hnamed, hlong⟩ := hunmarked
  rw [openingAt]
  all_goals
    rintro more rfl
    simp_all

theorem Unmarked.append {tail text : List Char} (hclosing : Closing tail)
    (hunmarked : Unmarked text) : Unmarked (text ++ tail) where
  ahead := hclosing.head?_append_ne (by decide) hunmarked.ahead
  apart := hclosing.head?_append_ne (by decide) hunmarked.apart
  named := hclosing.head?_append_ne (by decide) hunmarked.named
  long hlong := by
    obtain ⟨more, rfl⟩ :=
      List.head?_eq_some_iff.mp ((hclosing.head?_append (by decide)).mp hlong)
    exact hclosing.head?_append_ne (by decide) (hunmarked.long rfl)

theorem openingAt_named {text : List Char} (hahead : text.head? ≠ some '=')
    (hapart : text.head? ≠ some '!') : openingAt ('?' :: '<' :: text) = namedOpening text := by
  rw [openingAt]
  all_goals
    rintro more rfl
    simp_all

theorem openingAt_plain {text : List Char} (hmark : text.head? ≠ some '?') :
    openingAt text = (do return .capturing (← openGroup none)) := by
  rw [openingAt]
  all_goals
    rintro more rfl
    exact hmark rfl

theorem tameAt_namedOpening {scan : Scan} {text : List Char} (htext : text <:+ scan.rest) :
    TameAt Past scan (namedOpening text) fun tail => namedOpening (text ++ tail) :=
  tameAt_setRest (tame_readGroupName.bindNever fun name =>
    (tame_openGroup (some name)).bindNever fun index => tame_pure (Opening.capturing index))
    htext

theorem run_flaggedOpening {text : List Char} (htext : text ≠ []) (scan : Scan) :
    (flaggedOpening text).run scan =
      (flaggedAt (readFlagLetters scan.flags false [] text)).run scan := by
  rw [flaggedOpening, if_neg htext]
  exact run_bind_of_ok (run_get scan)

theorem flaggedAt_eq_ok {flags : Flags} {any : Bool} {left : List Char} {scan final : Scan}
    {opening : Opening}
    (hok : (flaggedAt (.ok (flags, any, left))).run scan = .ok (opening, final)) :
    final.rest = left.tail := by
  rw [flaggedAt, run_setRest_bind] at hok
  split at hok
  next =>
    cases any with
    | false => cases hok
    | true =>
        obtain ⟨-, rfl⟩ := run_pure_eq_ok_iff.mp hok
        rfl
  next =>
    obtain ⟨-, rfl⟩ := run_pure_eq_ok_iff.mp hok
    rfl

theorem tameAt_flaggedAt (flags : Flags) (any : Bool) {scan : Scan} {left : List Char}
    (hsome : left ≠ []) (hleft : left <:+ scan.rest) :
    TameAt Past scan (flaggedAt (.ok (flags, any, left)))
      fun tail => flaggedAt (.ok (flags, any, left ++ tail)) := by
  obtain ⟨char, more, rfl⟩ := List.exists_cons_of_ne_nil hsome
  refine tameAt_setRest ?_ ((List.tail_suffix _).trans hleft)
  rw [List.head?_cons]
  split
  next =>
    cases any with
    | false => exact tame_throw _
    | true => exact tame_pure _
  next => exact tame_pure _

/-- Flags that end at the parenthesis behind the pattern take it. -/
theorem tameAt_flaggedOpening {scan : Scan} {text : List Char} (htext : text <:+ scan.rest) :
    TameAt Past scan (flaggedOpening text) fun tail => flaggedOpening (text ++ tail) := by
  by_cases hempty : text = []
  · subst hempty
    refine .of_error rfl fun tail hclosing opening final hok => ?_
    obtain ⟨more, rfl⟩ := hclosing.exists_cons
    cases hok
  have hmore : ∀ tail, text ++ tail ≠ [] := fun tail => by simp [hempty]
  cases hread : readFlagLetters scan.flags false [] text with
  | error error =>
      have halone : (flaggedOpening text).run scan = .error error := by
        rw [run_flaggedOpening hempty, hread]
        rfl
      refine .of_error halone fun tail hclosing opening final hok => ?_
      have hletters := readFlagLetters_append hclosing scan.flags false [] text
      rw [hread] at hletters
      rw [run_flaggedOpening (hmore tail), Scan.followedBy_flags] at hok
      cases hfound : readFlagLetters scan.flags false [] (text ++ tail) with
      | error error =>
          rw [hfound] at hok
          cases hok
      | ok found =>
          rw [hfound] at hok
          have hrest : final.rest = tail.tail := by
            rw [flaggedAt_eq_ok hok, hletters _ _ _ hfound]
          exact ⟨[], hrest⟩
  | ok found =>
      obtain ⟨flags, any, left⟩ := found
      obtain ⟨hleft, hsome⟩ := readFlagLetters_eq_ok hread
      refine .of_run (List.suffix_refl _) ?_ (fun tail hclosing => ?_)
        (tameAt_flaggedAt flags any hsome (hleft.trans htext))
      · rw [run_flaggedOpening hempty, hread]
      · have hletters := readFlagLetters_append hclosing scan.flags false [] text
        rw [hread] at hletters
        rw [run_flaggedOpening (hmore tail), Scan.followedBy_flags, hletters]

theorem tame_openUnnamed {excess : Excess Opening} :
    Tame excess (do return .capturing (← openGroup none) : Reader Opening) :=
  TameOn.bindNever (tame_openGroup none) fun index => tame_pure (Opening.capturing index)

/-- An opening that has a mark behind the question mark. -/
theorem tameAt_markedOpening {scan : Scan} {text : List Char} (htext : text <:+ scan.rest) :
    TameAt Past scan (openingAt ('?' :: text)) fun tail => openingAt ('?' :: (text ++ tail)) := by
  by_cases hahead : text.head? = some '='
  · obtain ⟨more, rfl⟩ := List.head?_eq_some_iff.mp hahead
    exact tame_throw .lookAround scan trivial
  by_cases hapart : text.head? = some '!'
  · obtain ⟨more, rfl⟩ := List.head?_eq_some_iff.mp hapart
    exact tame_throw .lookAround scan trivial
  by_cases hnamed : text.head? = some '<'
  · obtain ⟨more, rfl⟩ := List.head?_eq_some_iff.mp hnamed
    by_cases hbehind : more.head? = some '='
    · obtain ⟨rest, rfl⟩ := List.head?_eq_some_iff.mp hbehind
      exact tame_throw .lookAround scan trivial
    by_cases hnever : more.head? = some '!'
    · obtain ⟨rest, rfl⟩ := List.head?_eq_some_iff.mp hnever
      exact tame_throw .lookAround scan trivial
    exact (tameAt_namedOpening ((List.suffix_cons _ _).trans htext)).congr
      (openingAt_named hbehind hnever) fun tail hclosing =>
        openingAt_named (hclosing.head?_append_ne (by decide) hbehind)
          (hclosing.head?_append_ne (by decide) hnever)
  by_cases hlong : text.head? = some 'P' ∧ text.tail.head? = some '<'
  · obtain ⟨more, rfl⟩ := List.head?_eq_some_iff.mp hlong.1
    obtain ⟨rest, rfl⟩ : ∃ rest, more = '<' :: rest := List.head?_eq_some_iff.mp hlong.2
    exact tameAt_namedOpening
      (((List.suffix_cons _ _).trans (List.suffix_cons _ _)).trans htext)
  · have hunmarked : Unmarked text :=
      ⟨hahead, hapart, hnamed, fun hfirst hnext => hlong ⟨hfirst, hnext⟩⟩
    exact (tameAt_flaggedOpening htext).congr (openingAt_unmarked hunmarked)
      fun tail hclosing => openingAt_unmarked (hunmarked.append hclosing)

theorem tameAt_openingAt (scan : Scan) :
    TameAt Past scan (openingAt scan.rest) fun tail => openingAt (scan.rest ++ tail) := by
  by_cases hmark : scan.rest.head? = some '?'
  · obtain ⟨text, hrest⟩ := List.head?_eq_some_iff.mp hmark
    have hmarked := tameAt_markedOpening (hrest ▸ List.suffix_cons '?' text)
    rw [hrest]
    exact hmarked
  · exact (tame_openUnnamed scan trivial).congr (openingAt_plain hmark) fun tail hclosing =>
      openingAt_plain (hclosing.head?_append_ne (by decide) hmark)

theorem tame_readOpening : Tame Past readOpening := by
  rw [readOpening_eq]
  exact tame_skipSpace.bindNever fun _ => tameOn_bind_rest fun scan _ => tameAt_openingAt scan

end EdgeGateway.Regex
