import EdgeGateway.Proofs.Regex.Closing

/-!
# Parts before a closing parenthesis

The readers of escapes, classes, counts and openings are tame.  What can come of one
that fails where a pattern ends differs: an escape takes the parenthesis itself, an
item of a class stops before it, and a text in braces is not found.
-/

namespace EdgeGateway.Regex

open Reader
open Unicode (NamedSets)

/-! ## Texts in braces -/

theorem readBraced_eq_none {flags : Flags} {text : List Char} (htext : '}' ∉ text)
    (fuel : Nat) : readBraced flags fuel text = none := by
  induction fuel generalizing text with
  | zero => rfl
  | succ fuel ih =>
      unfold readBraced
      have hsuffix := afterSpace_suffix flags text
      split
      next => rfl
      next char rest hspace =>
        rw [hspace] at hsuffix
        have hmem : '}' ∉ char :: rest := fun hmem => htext (hsuffix.subset hmem)
        obtain ⟨hchar, hrest⟩ : '}' ≠ char ∧ '}' ∉ rest := by simpa using hmem
        rw [if_neg hchar.symm, ih hrest]
        rfl

theorem readBraced_suffix {flags : Flags} {fuel : Nat} {text body left : List Char}
    (hread : readBraced flags fuel text = some (body, left)) : left <:+ text := by
  induction fuel generalizing text body with
  | zero => simp [readBraced] at hread
  | succ fuel ih =>
      unfold readBraced at hread
      have hsuffix := afterSpace_suffix flags text
      split at hread
      next => simp at hread
      next char rest hspace =>
        have hrest : rest <:+ text := (List.suffix_cons char rest).trans (hspace ▸ hsuffix)
        split at hread
        next =>
          obtain ⟨-, rfl⟩ : [] = body ∧ rest = left := by simpa using hread
          exact hrest
        next =>
          obtain ⟨⟨inner, left'⟩, hmore, hpair⟩ := Option.map_eq_some_iff.mp hread
          obtain ⟨-, rfl⟩ : char :: inner = body ∧ left' = left := by simpa using hpair
          exact (ih hmore).trans hrest

/-- A text in braces ends at its brace, and there is none behind. -/
theorem readBraced_append {tail : List Char} (hclosing : Closing tail) (flags : Flags)
    {fuel more : Nat} {text : List Char} (hfuel : text.length < fuel)
    (hmore : (text ++ tail).length < more) :
    readBraced flags more (text ++ tail) =
      (readBraced flags fuel text).map fun (body, left) => (body, left ++ tail) := by
  induction fuel generalizing text more with
  | zero => omega
  | succ fuel ih =>
      obtain ⟨less, rfl⟩ : ∃ less, more = less + 1 := ⟨more - 1, by omega⟩
      unfold readBraced
      rcases afterSpace_append flags text with hsame | ⟨hempty, hswallowed⟩
      · rw [hsame tail hclosing]
        cases hspace : afterSpace flags text with
        | nil =>
            obtain ⟨rest, rfl⟩ := hclosing.exists_cons
            have hrest : '}' ∉ rest := fun hmem =>
              hclosing.not_mem (by decide) (by decide) (List.mem_cons_of_mem _ hmem)
            simp [readBraced_eq_none hrest]
        | cons char rest =>
            have hlength := (hspace ▸ afterSpace_suffix flags text).length_le
            rw [List.length_append] at hmore
            rw [List.length_cons] at hlength
            simp only [List.cons_append]
            split
            next => rfl
            next =>
              have hless : (rest ++ tail).length < less := by
                rw [List.length_append]
                omega
              rw [ih (by omega) hless, Option.map_map, Option.map_map]
              rfl
      · rw [hswallowed tail hclosing, hempty]
        rfl

section Braced

variable {Value : Type} {excess : Excess Value}

/-- Reads a text in braces and goes on behind it. -/
def pastBraced (flags : Flags) (fuel : Nat) (text : List Char) (error : SyntaxError)
    (next : List Char → Reader Value) : Reader Value :=
  match readBraced flags fuel text with
  | none => throw error
  | some (body, left) => do
      setRest left
      next body

theorem tameAt_pastBraced {flags : Flags} {error : SyntaxError}
    {next : List Char → Reader Value} (hnext : ∀ body, Tame excess (next body))
    {fuel : Nat} {more : List Char → Nat} {text : List Char} {scan : Scan}
    (htext : text <:+ scan.rest) (hfuel : text.length < fuel)
    (hmore : ∀ tail, (text ++ tail).length < more tail) :
    TameAt excess scan (pastBraced flags fuel text error next)
      fun tail => pastBraced flags (more tail) (text ++ tail) error next := by
  have happend : ∀ tail, Closing tail →
      pastBraced flags (more tail) (text ++ tail) error next =
        match readBraced flags fuel text with
        | none => throw error
        | some (body, left) => setRest (left ++ tail) >>= fun _ => next body := by
    intro tail hclosing
    rw [pastBraced, readBraced_append hclosing flags hfuel (hmore tail)]
    cases readBraced flags fuel text <;> rfl
  cases hread : readBraced flags fuel text with
  | none =>
      have halone : pastBraced flags fuel text error next = throw error := by
        rw [pastBraced, hread]
      rw [halone]
      refine .of_error rfl fun tail hclosing value final hok => ?_
      rw [happend tail hclosing, hread] at hok
      cases hok
  | some found =>
      obtain ⟨body, left⟩ := found
      refine (tameAt_setRest (hnext body) ((readBraced_suffix hread).trans htext)).congr ?_
        fun tail hclosing => ?_
      · rw [pastBraced, hread]
      · rw [happend tail hclosing, hread]

end Braced

/-! ## Escapes -/

theorem tame_readHexDigits (count value : Nat) : Tame Never (readHexDigits count value) := by
  induction count generalizing value with
  | zero => exact tame_pure value
  | succ count ih =>
      refine tame_bind_peek (fun char => ?_) fun scan _ =>
        .of_error rfl fun _ _ _ _ hok => by cases hok
      dsimp only
      split
      next => exact (tame_throw _).only
      next => exact (takes_step.bindNever fun _ => ih _).tame char

theorem tame_charOfCode (code : Nat) : Tame Never (charOfCode code) := by
  by_cases hvalid : code.isValidChar
  · rw [charOfCode, dif_pos hvalid]
    exact tame_pure _
  · rw [charOfCode, dif_neg hvalid]
    exact tame_throw _

/-- The character with a code that has been read. -/
def literalOf (kind : Char) (code : Nat) : Reader Primitive := do
  return .literal (← charOfCode code) (kind = 'x')

theorem tame_literalOf (kind : Char) (code : Nat) : Tame Never (literalOf kind code) :=
  (tame_charOfCode code).bindNever fun _ => tame_pure _

/-- The character with a code that has been read in braces. -/
def bracedLiteral (kind : Char) (body : List Char) : Reader Primitive :=
  match Unicode.hexValue? body with
  | none => throw .invalidCodePoint
  | some code => literalOf kind code

theorem tame_bracedLiteral (kind : Char) (body : List Char) :
    Tame Never (bracedLiteral kind body) := by
  unfold bracedLiteral
  split
  next => exact tame_throw _
  next => exact tame_literalOf kind _

theorem readHexDigits_closing {count value : Nat} (hcount : count ≠ 0) {scan : Scan}
    (hclosing : Before ')' scan) :
    (readHexDigits count value).run scan = .error .invalidCodePoint := by
  obtain ⟨less, rfl⟩ := Nat.exists_eq_succ_of_ne_zero hcount
  rw [readHexDigits, run_bind_of_ok (run_peek scan), hclosing]
  rfl

theorem takes_readHex (kind : Char) : Takes Never (readHex kind) := by
  refine takes_step.bindNever fun _ => tame_bind_peek (fun next => ?_) fun scan hend => ?_
  · dsimp only
    split
    next heq => cases heq
    next heq =>
      obtain rfl := Option.some.inj heq
      refine tameOn_bind_get fun scan hbefore => ?_
      obtain ⟨text, hrest⟩ := List.head?_eq_some_iff.mp hbefore
      have hfuel : scan.rest.tail.length < scan.rest.length + 1 := by
        rw [List.length_tail]
        omega
      have hmore : ∀ tail : List Char,
          (scan.rest.tail ++ tail).length < (scan.rest ++ tail).length + 1 := by
        intro tail
        rw [List.length_append, List.length_append, List.length_tail]
        omega
      refine (tameAt_pastBraced (tame_bracedLiteral kind) (List.tail_suffix _) hfuel
        hmore).congr rfl fun tail _ => ?_
      rw [Scan.followedBy_rest, hrest]
      rfl
    next =>
      exact ((tame_readHexDigits _ _).bindNever fun _ => tame_literalOf kind _).only
  · refine .of_error rfl fun tail hclosing value final hok => ?_
    obtain ⟨code, middle, hdigits, -⟩ := run_bind_eq_ok_iff.mp hok
    have hcount : (if kind = 'x' then 2 else if kind = 'u' then 4 else 8) ≠ 0 := by grind
    have hbefore : Before ')' (scan.followedBy tail) := by
      rw [Before, Scan.followedBy_rest, hend, List.nil_append, hclosing.head]
    rw [readHexDigits_closing hcount hbefore] at hdigits
    cases hdigits

/-- The members of a property, or all others. -/
def propertyClass [NamedSets] (flags : Flags) (negated : Bool → Bool) (name : List Char) :
    Reader Primitive := do
  let (members, inverted) ← propertyOf name
  return .class (negateIf flags (negated inverted) (foldIfAsked flags members))

theorem tame_propertyClass [NamedSets] {excess : Excess Primitive} (flags : Flags)
    (negated : Bool → Bool) (name : List Char) :
    Tame excess (propertyClass flags negated name) :=
  (tame_lift (propertyOf name)).bindNever fun _ => tame_pure _

/-- What follows the letter of a property. -/
def propertyAt [NamedSets] (negated : Bool) (flags : Flags) : List Char → Reader Primitive
  | [] => throw .unfinishedEscape
  | '{' :: text =>
      pastBraced flags (text.length + 1) text .unfinishedEscape
        (propertyClass flags (negated != ·))
  | char :: left =>
      if char = '\\' then throw .unknownProperty
      else do
        setRest left
        propertyClass flags (fun _ => negated) [char]

theorem readProperty_eq [NamedSets] (negated : Bool) :
    readProperty negated = step >>= fun _ => get >>= fun scan =>
      if scan.flags.unicode then propertyAt negated scan.flags scan.rest
      else throw .notText := by
  unfold readProperty
  refine congrArg _ (funext fun _ => congrArg _ (funext fun scan => ?_))
  cases hunicode : scan.flags.unicode with
  | false => rfl
  | true =>
      simp only [Bool.not_true, Bool.false_eq_true, if_false, if_true]
      split
      next hrest => rw [hrest]; rfl
      next text hrest => rw [hrest]; rfl
      next char left hchar hrest =>
        rw [hrest, propertyAt]
        · split <;> rfl
        · exact hchar

theorem tameAt_propertyAt [NamedSets] (negated : Bool) (flags : Flags) (scan : Scan) :
    TameAt Past scan (propertyAt negated flags scan.rest)
      fun tail => propertyAt negated flags (scan.rest ++ tail) := by
  cases hrest : scan.rest with
  | nil =>
      refine .of_error rfl fun tail hclosing value final hok => ?_
      obtain ⟨more, rfl⟩ := hclosing.exists_cons
      have hletter : Tame Past (propertyClass flags (fun _ => negated) [')']) :=
        tame_propertyClass _ _ _
      exact hletter.shrinks ((run_setRest_bind more _ _).symm.trans hok)
  | cons char left =>
      by_cases hbrace : char = '{'
      · subst hbrace
        exact tameAt_pastBraced (fun _ => tame_propertyClass _ _ _)
          (hrest ▸ List.suffix_cons _ _) (Nat.lt_succ_self _) fun _ => Nat.lt_succ_self _
      · have hletter : ∀ left, propertyAt negated flags (char :: left) =
            if char = '\\' then throw .unknownProperty
            else setRest left >>= fun _ => propertyClass flags (fun _ => negated) [char] := by
          intro left
          rw [propertyAt]
          exact hbrace
        simp only [List.cons_append, hletter]
        split
        next => exact tame_throw _ scan trivial
        next => exact tameAt_setRest (tame_propertyClass _ _ _) (hrest ▸ List.suffix_cons _ _)

theorem takes_readProperty [NamedSets] (negated : Bool) : Takes Past (readProperty negated) := by
  rw [readProperty_eq]
  refine takes_step.bindNever fun _ => tameOn_bind_get fun scan _ => ?_
  change TameAt Past scan
    (if scan.flags.unicode then propertyAt negated scan.flags scan.rest else throw .notText)
    fun tail => if scan.flags.unicode then propertyAt negated scan.flags (scan.rest ++ tail)
      else throw .notText
  by_cases hunicode : scan.flags.unicode = true
  · simp only [if_pos hunicode]
    exact tameAt_propertyAt negated scan.flags scan
  · simp only [if_neg hunicode]
    exact tame_throw _ scan trivial

/-- The word assertion with a name. -/
def namedBoundary (name : List Char) : Reader Primitive :=
  match String.ofList name with
  | "start" => return .assertion .wordStart
  | "end" => return .assertion .wordEnd
  | "start-half" => return .assertion .wordStartHalf
  | "end-half" => return .assertion .wordEndHalf
  | _ => throw .unknownEscape

theorem tame_namedBoundary {excess : Excess Primitive} (name : List Char) :
    Tame excess (namedBoundary name) := by
  unfold namedBoundary
  split <;> first | exact tame_pure _ | exact tame_throw _

/-- What follows the brace after a word boundary. -/
def boundaryAt (flags : Flags) (text : List Char) : Reader Primitive :=
  match afterSpace flags text with
  | [] => throw .unclosedCount
  | char :: _ =>
      if !(Text.isAsciiLetter char || char = '-') then return .assertion .wordBoundary
      else pastBraced flags (text.length + 1) text .unknownEscape namedBoundary

theorem readWordBoundary_eq :
    readWordBoundary = get >>= fun scan =>
      match scan.rest with
      | '{' :: text => boundaryAt scan.flags text
      | _ => return .assertion .wordBoundary := rfl

/-- A word boundary is left before a brace that only the parenthesis follows. -/
def Stopped : Excess Primitive := fun tail value final =>
  value = .assertion .wordBoundary ∧
    ∃ left, final.rest = '{' :: left ∧ afterSpace final.flags left = tail

theorem tameAt_boundaryAt {scan : Scan} {text : List Char} (hrest : scan.rest = '{' :: text) :
    TameAt Stopped scan (boundaryAt scan.flags text)
      fun tail => boundaryAt scan.flags (text ++ tail) := by
  rcases afterSpace_append scan.flags text with hsame | ⟨hempty, hswallowed⟩
  · cases hspace : afterSpace scan.flags text with
    | nil =>
        have halone : boundaryAt scan.flags text = throw .unclosedCount := by
          rw [boundaryAt, hspace]
        rw [halone]
        refine .of_error rfl fun tail hclosing value final hok => ?_
        obtain ⟨more, rfl⟩ := hclosing.exists_cons
        have hleft := hsame _ hclosing
        rw [hspace, List.nil_append] at hleft
        rw [boundaryAt, hleft] at hok
        obtain ⟨rfl, rfl⟩ := run_pure_eq_ok_iff.mp hok
        exact ⟨rfl, text ++ ')' :: more, by simp [hrest], hleft⟩
    | cons char left =>
        by_cases hletter : (!(Text.isAsciiLetter char || char = '-')) = true
        · refine (tame_pure (.assertion .wordBoundary) scan trivial).congr ?_
            fun tail hclosing => ?_
          · rw [boundaryAt, hspace]
            simp only [if_pos hletter]
          · rw [boundaryAt, hsame tail hclosing, hspace]
            simp only [List.cons_append, if_pos hletter]
        · have hbraced : TameAt Stopped scan
              (pastBraced scan.flags (text.length + 1) text .unknownEscape namedBoundary)
              fun tail => pastBraced scan.flags ((text ++ tail).length + 1) (text ++ tail)
                .unknownEscape namedBoundary :=
            tameAt_pastBraced tame_namedBoundary (hrest ▸ List.suffix_cons _ _)
              (Nat.lt_succ_self _) fun _ => Nat.lt_succ_self _
          refine hbraced.congr ?_ fun tail hclosing => ?_
          · rw [boundaryAt, hspace]
            simp only [if_neg hletter]
          · rw [boundaryAt, hsame tail hclosing, hspace]
            simp only [List.cons_append, if_neg hletter]
  · have halone : boundaryAt scan.flags text = throw .unclosedCount := by
      rw [boundaryAt, hempty]
    rw [halone]
    refine .of_error rfl fun tail hclosing value final hok => ?_
    rw [boundaryAt, hswallowed tail hclosing] at hok
    cases hok

theorem tame_readWordBoundary : Tame Stopped readWordBoundary := by
  rw [readWordBoundary_eq]
  refine tameOn_bind_get fun scan _ => ?_
  cases hrest : scan.rest with
  | nil =>
      refine (tame_pure (Primitive.assertion .wordBoundary) scan trivial).congr rfl
        fun tail hclosing => ?_
      obtain ⟨more, rfl⟩ := hclosing.exists_cons
      simp [hrest]
  | cons char text =>
      by_cases hbrace : char = '{'
      · subst hbrace
        refine (tameAt_boundaryAt hrest).congr rfl fun tail _ => ?_
        simp [hrest]
      · refine (tame_pure (Primitive.assertion .wordBoundary) scan trivial).congr ?_
          fun tail _ => ?_
        · simp [hbrace]
        · simp [hrest, hbrace]

/-- What may come of an escape that fails where a pattern ends. -/
def Escaped : Excess Primitive := fun tail value final =>
  Past tail value final ∨ Stopped tail value final

theorem tame_readEscape [NamedSets] : Tame Escaped readEscape := by
  refine tameOn_bind_get fun scan _ => ?_
  refine tame_bind_peek_of_takes (fun char => ?_) rfl (fun _ _ _ => Or.inl) scan trivial
  dsimp only
  split
  next => exact takes_throw _
  split
  next => exact (takes_readHex char).mono fun _ _ _ hnever => hnever.elim
  split
  next => exact (takes_readProperty _).mono fun _ _ _ => Or.inl
  split
  next => exact takes_advance.bindNever fun _ => tame_pure _
  next =>
    refine takes_advance.bindNever fun _ => ?_
    split
    next => exact tame_pure _
    split <;> first
      | exact tame_pure _
      | exact tame_readWordBoundary.mono fun _ _ _ => Or.inr
      | exact tame_throw _

end EdgeGateway.Regex
