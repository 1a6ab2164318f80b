import EdgeGateway.Proofs.Text.Pieces
import EdgeGateway.Route.PathPattern

/-!
# The tokens of a path pattern

A pattern can be written as tokens in one way only: of two wildcards in a row the
longer is taken first, literal text goes on as far as it can, and `/**` is a token
of its own only at the end.  Every pattern can, unless one of its braces does not
open a variable.
-/

namespace EdgeGateway.Route.PathToken

/-- The text that a token stands for in a pattern. -/
def spelling : PathToken → List Char
  | literal text => text
  | withinSegment => ['*']
  | anything => ['*', '*']
  | capture name => '{' :: (name.toList ++ ['}'])
  | subtree => ['/', '*', '*']

def spell (tokens : List PathToken) : List Char := tokens.flatMap spelling

def isSpecial (char : Char) : Bool := char = '*' || char = '{'

/-- What stands between the braces of a variable. -/
def IsWord (name : List Char) : Prop := name ≠ [] ∧ name.all isVariableChar = true

/-- A token ends where this text begins. -/
def EndsBefore (rest : List Char) : PathToken → Prop
  | literal text => text ≠ [] ∧ text.all (!isSpecial ·) = true ∧
      (rest = ['/', '*', '*'] ∨ rest.head?.all isSpecial = true) ∧
      ¬ (rest = ['*', '*'] ∧ text.getLast? = some '/')
  | withinSegment => rest.head? ≠ some '*'
  | anything => True
  | capture name => IsWord name.toList
  | subtree => rest = []

/-- Each token ends where the next begins. -/
def Canonical : List PathToken → Prop
  | [] => True
  | token :: tokens => token.EndsBefore (spell tokens) ∧ Canonical tokens

/-- A brace opens a variable. -/
def OpensWord (after : List Char) : Prop :=
  ∃ name rest, after = name ++ '}' :: rest ∧ IsWord name

/-- Every brace opens a variable. -/
def Braced (text : List Char) : Prop :=
  ∀ before after, text = before ++ '{' :: after → OpensWord after

theorem ne_of_isVariableChar {char other : Char} (hchar : isVariableChar char = true)
    (hother : isVariableChar other = false) : char ≠ other := by
  rintro rfl
  simp [hchar] at hother

theorem IsWord.not_mem {name : List Char} (hword : IsWord name) {other : Char}
    (hother : isVariableChar other = false) : other ∉ name := fun hmem =>
  ne_of_isVariableChar (List.all_eq_true.mp hword.2 other hmem) hother rfl

theorem literalRun_append {text rest : List Char}
    (htext : text.all (!isSpecial ·) = true) (hrest : rest.head?.all isSpecial = true) :
    literalRun (text ++ rest) = text := by
  have hrun : ∀ text, literalRun text = text.takeWhile (!isSpecial ·) := by
    intro text
    unfold literalRun isSpecial
    congr 1
    funext char
    simp
  rw [hrun, List.takeWhile_append_of_pos (by simpa using htext)]
  cases rest with
  | nil => simp
  | cons char rest =>
      have hspecial : isSpecial char = true := by simpa using hrest
      rw [List.takeWhile_cons_of_neg (by simp [hspecial]), List.append_nil]

/-- At a plain character literal text is read, without a slash that belongs to a
subtree. -/
theorem readTokens_plain {head : Char} (hhead : isSpecial head = false) {tail : List Char}
    (hsubtree : head :: tail ≠ ['/', '*', '*']) (fuel : Nat) :
    readTokens (fuel + 1) (head :: tail) =
      let run := literalRun (head :: tail)
      let rest := (head :: tail).drop run.length
      if rest = ['*', '*'] ∧ run.getLast? = some '/' then
        .ok [literal run.dropLast, subtree]
      else (readTokens fuel rest).map (literal run :: ·) := by
  obtain ⟨hstar, hbrace⟩ : head ≠ '*' ∧ head ≠ '{' := by simpa [isSpecial] using hhead
  rw [readTokens]
  all_goals simp_all

/-- Literal text is read up to where it ends. -/
theorem readTokens_literal {text rest : List Char}
    (hends : (literal text).EndsBefore rest) (fuel : Nat) (hfuel : rest.length < fuel) :
    readTokens (fuel + 1) (text ++ rest) =
      (readTokens fuel rest).map (literal text :: ·) := by
  obtain ⟨hsome, hplain, hrest, hslash⟩ := hends
  obtain ⟨head, tail, rfl⟩ := List.exists_cons_of_ne_nil hsome
  have hhead : isSpecial head = false := by
    simpa using List.all_eq_true.mp hplain head List.mem_cons_self
  rw [List.cons_append]
  rcases hrest with rfl | hspecial
  · -- the slash is read with the text and given back to the subtree
    obtain ⟨less, rfl⟩ : ∃ less, fuel = less + 1 := ⟨fuel - 1, by simp at hfuel; omega⟩
    have hlonger : (head :: (tail ++ ['/'])).all (!isSpecial ·) = true := by
      rw [← List.cons_append, List.all_append, hplain]
      decide
    have hrun : literalRun (head :: (tail ++ ['/', '*', '*'])) = head :: (tail ++ ['/']) := by
      have hspecial : (['*', '*'] : List Char).head?.all isSpecial = true := by decide
      simpa using literalRun_append hlonger hspecial
    have hsubtree : head :: (tail ++ ['/', '*', '*']) ≠ ['/', '*', '*'] := fun hsame => by
      simpa using congrArg List.length hsame
    rw [readTokens_plain hhead hsubtree]
    simp only [hrun]
    have hdrop : (head :: (tail ++ ['/', '*', '*'])).drop (head :: (tail ++ ['/'])).length =
        ['*', '*'] := by
      simp
    rw [if_pos ⟨hdrop, by simp [List.getLast?_cons]⟩]
    simp [readTokens, List.dropLast_cons_of_ne_nil, Except.map]
  · have hsubtree : head :: (tail ++ rest) ≠ ['/', '*', '*'] := by
      intro hsame
      obtain ⟨rfl, hrest⟩ := List.cons.inj hsame
      cases tail with
      | nil => exact hslash ⟨hrest, rfl⟩
      | cons char tail =>
          obtain ⟨rfl, -⟩ := List.cons.inj hrest
          simp [isSpecial] at hplain
    have hrun := literalRun_append hplain hspecial
    rw [List.cons_append] at hrun
    rw [readTokens_plain hhead hsubtree]
    simp only [hrun]
    have hdrop : (head :: (tail ++ rest)).drop (head :: tail).length = rest := by simp
    rw [hdrop, if_neg hslash]

theorem EndsBefore.spelling_ne_nil {token : PathToken} {rest : List Char}
    (hends : token.EndsBefore rest) : token.spelling ≠ [] := by
  cases token with
  | literal text => exact hends.1
  | _ => simp [spelling]

theorem readTokens_append {token : PathToken} {rest : List Char}
    (hends : token.EndsBefore rest) (fuel : Nat) (hfuel : rest.length < fuel) :
    readTokens (fuel + 1) (token.spelling ++ rest) =
      (readTokens fuel rest).map (token :: ·) := by
  cases token with
  | literal text => exact readTokens_literal hends fuel hfuel
  | withinSegment =>
      cases rest with
      | nil => simp [spelling, readTokens]
      | cons char rest =>
          have hother : char ≠ '*' := by simpa [EndsBefore] using hends
          simp [spelling, readTokens, hother]
  | anything => simp [spelling, readTokens]
  | capture name =>
      have hsplit : Text.splitAtFirst? '}' (name.toList ++ '}' :: rest) =
          some (name.toList, rest) := Text.splitAtFirst?_append (hends.not_mem (by decide))
      obtain ⟨hsome, hall⟩ : IsWord name.toList := hends
      simp [spelling, readTokens, hsplit, hsome, hall]
  | subtree =>
      obtain rfl : rest = [] := hends
      cases fuel <;> rfl

/-- Only one list of tokens is read from the text that it stands for. -/
theorem readTokens_spell {tokens : List PathToken} (hcanonical : Canonical tokens)
    (fuel : Nat) (hfuel : (spell tokens).length < fuel) :
    readTokens fuel (spell tokens) = .ok tokens := by
  induction tokens generalizing fuel with
  | nil => cases fuel <;> rfl
  | cons token tokens ih =>
      obtain ⟨hends, hrest⟩ := hcanonical
      obtain ⟨less, rfl⟩ : ∃ less, fuel = less + 1 := ⟨fuel - 1, by omega⟩
      have hsome := hends.spelling_ne_nil
      have hshorter : (spell tokens).length < less := by
        have hlength := List.length_pos_iff.mpr hsome
        simp only [spell, List.flatMap_cons, List.length_append] at hfuel ⊢
        omega
      rw [spell, List.flatMap_cons]
      exact (readTokens_append hends less hshorter).trans (by rw [ih hrest less hshorter]; rfl)

/-! ## Texts that can be read -/

theorem braced_cons {char : Char} {text : List Char} :
    Braced (char :: text) ↔ (char = '{' → OpensWord text) ∧ Braced text := by
  constructor
  · intro hbraced
    refine ⟨fun hbrace => hbraced [] text (by rw [hbrace]; rfl), ?_⟩
    rintro before after rfl
    exact hbraced (char :: before) after rfl
  · rintro ⟨hopens, hbraced⟩ before after hsplit
    cases before with
    | nil =>
        obtain ⟨hbrace, rfl⟩ := List.cons.inj hsplit
        exact hopens hbrace
    | cons _ before => exact hbraced before after (List.cons.inj hsplit).2

theorem braced_append {piece rest : List Char} (hpiece : '{' ∉ piece) :
    Braced (piece ++ rest) ↔ Braced rest := by
  induction piece with
  | nil => rfl
  | cons char piece ih =>
      obtain ⟨hchar, hmore⟩ : '{' ≠ char ∧ '{' ∉ piece := by simpa using hpiece
      rw [List.cons_append, braced_cons, ih hmore]
      exact and_iff_right fun hbrace => absurd hbrace.symm hchar

theorem braced_spelling_append {token : PathToken} {rest : List Char}
    (hends : token.EndsBefore rest) :
    Braced (token.spelling ++ rest) ↔ Braced rest := by
  cases token with
  | literal text =>
      refine braced_append fun hmem => ?_
      have hplain := List.all_eq_true.mp hends.2.1 '{' hmem
      simp [isSpecial] at hplain
  | withinSegment => exact braced_append (by decide)
  | anything => exact braced_append (by decide)
  | subtree => exact braced_append (by decide)
  | capture name =>
      have hword : IsWord name.toList := hends
      have hopens : OpensWord (name.toList ++ ['}'] ++ rest) :=
        ⟨name.toList, rest, by simp, hword⟩
      have hplain : '{' ∉ name.toList ++ ['}'] := by
        simpa using hword.not_mem (by decide)
      rw [spelling, List.cons_append, braced_cons, braced_append hplain]
      exact and_iff_right fun _ => hopens

/-- At a plain character stands literal text, or a slash that belongs to a subtree. -/
theorem exists_token_of_plain {head : Char} {tail : List Char}
    (hhead : isSpecial head = false) :
    ∃ token rest, head :: tail = spelling token ++ rest ∧ token.EndsBefore rest := by
  obtain ⟨run, hrun⟩ : ∃ run, run = (head :: tail).takeWhile (!isSpecial ·) := ⟨_, rfl⟩
  obtain ⟨rest, hrest⟩ : ∃ rest, rest = (head :: tail).dropWhile (!isSpecial ·) := ⟨_, rfl⟩
  have htext : head :: tail = run ++ rest := by
    rw [hrun, hrest, List.takeWhile_append_dropWhile]
  have hsome : run ≠ [] := by simp [hrun, hhead]
  have hplain : run.all (!isSpecial ·) = true := by rw [hrun, List.all_takeWhile]
  have hspecial : rest.head?.all isSpecial = true := by
    have hdropped := List.head?_dropWhile_not (!isSpecial ·) (head :: tail)
    rw [← hrest] at hdropped
    cases hfirst : rest.head? with
    | none => rfl
    | some char => simpa [hfirst] using hdropped
  by_cases hslash : rest = ['*', '*'] ∧ run.getLast? = some '/'
  · obtain ⟨rfl, hlast⟩ := hslash
    obtain ⟨shorter, rfl⟩ := List.getLast?_eq_some_iff.mp hlast
    by_cases hshorter : shorter = []
    · exact ⟨subtree, [], by simp [htext, hshorter, spelling], rfl⟩
    · refine ⟨literal shorter, ['/', '*', '*'], by simp [htext, spelling], hshorter, ?_,
        Or.inl rfl, by simp⟩
      rw [List.all_append, Bool.and_eq_true] at hplain
      exact hplain.1
  · exact ⟨literal run, rest, htext, hsome, hplain, Or.inr hspecial, hslash⟩

/-- At the head of a text stands a token, or a brace that opens no variable. -/
theorem exists_token {text : List Char} (htext : text ≠ []) :
    (∃ token rest, text = spelling token ++ rest ∧ token.EndsBefore rest) ∨
      ∃ after, text = '{' :: after ∧ ¬ OpensWord after := by
  obtain ⟨head, tail, rfl⟩ := List.exists_cons_of_ne_nil htext
  by_cases hstar : head = '*'
  · subst hstar
    left
    by_cases hagain : tail.head? = some '*'
    · obtain ⟨rest, rfl⟩ := List.head?_eq_some_iff.mp hagain
      exact ⟨anything, rest, rfl, trivial⟩
    · exact ⟨withinSegment, tail, rfl, hagain⟩
  by_cases hbrace : head = '{'
  · subst hbrace
    by_cases hopens : OpensWord tail
    · obtain ⟨name, rest, rfl, hword⟩ := hopens
      exact Or.inl ⟨capture (String.ofList name), rest, by simp [spelling], by
        simpa [EndsBefore] using hword⟩
    · exact Or.inr ⟨tail, rfl, hopens⟩
  exact Or.inl (exists_token_of_plain (by simp [isSpecial, hstar, hbrace]))

theorem readTokens_unopened {after : List Char} (hopens : ¬ OpensWord after) (fuel : Nat) :
    ∃ fault, readTokens (fuel + 1) ('{' :: after) = .error fault ∧
      fault ≠ .invalidRegex .tooLarge := by
  rw [readTokens]
  split
  next => exact ⟨_, rfl, by simp⟩
  next name rest hsplit =>
    split
    next => exact ⟨_, rfl, by simp⟩
    next hname =>
      refine absurd ⟨name, rest, (Text.splitAtFirst?_eq_some_iff.mp hsplit).2, ?_⟩ hopens
      simpa [IsWord] using hname

/-- Reading takes the one way to write a text as tokens, or meets a brace that opens
no variable. -/
theorem readTokens_spec (fuel : Nat) (text : List Char) (hfuel : text.length < fuel) :
    (∃ tokens, readTokens fuel text = .ok tokens ∧ Canonical tokens ∧ spell tokens = text) ∧
        Braced text ∨
      (∃ fault, readTokens fuel text = .error fault ∧ fault ≠ .invalidRegex .tooLarge) ∧
        ¬ Braced text := by
  induction fuel generalizing text with
  | zero => omega
  | succ fuel ih =>
      by_cases htext : text = []
      · subst htext
        exact Or.inl ⟨⟨[], rfl, trivial, rfl⟩, by simp [Braced]⟩
      rcases exists_token htext with ⟨token, rest, rfl, hends⟩ | ⟨after, rfl, hopens⟩
      · have hshorter : rest.length < fuel := by
          have hlength := List.length_pos_iff.mpr hends.spelling_ne_nil
          rw [List.length_append] at hfuel
          omega
        rw [readTokens_append hends fuel hshorter, braced_spelling_append hends]
        rcases ih rest hshorter with
          ⟨⟨tokens, hread, hcanonical, rfl⟩, hbraced⟩ | ⟨⟨fault, hread, hfault⟩, hbraced⟩
        · exact Or.inl ⟨⟨token :: tokens, by rw [hread]; rfl, ⟨hends, hcanonical⟩, rfl⟩,
            hbraced⟩
        · exact Or.inr ⟨⟨fault, by rw [hread]; rfl, hfault⟩, hbraced⟩
      · exact Or.inr ⟨readTokens_unopened hopens fuel, fun hbraced =>
          hopens (braced_cons.mp hbraced |>.1 rfl)⟩

/-! ## Names -/

/-- What stands between each opening brace and the next closing one. -/
def openedNames : List Char → List (List Char)
  | [] => []
  | char :: rest =>
      if char = '{' then rest.takeWhile (· ≠ '}') :: openedNames rest else openedNames rest

theorem openedNames_append {piece rest : List Char} (hpiece : '{' ∉ piece) :
    openedNames (piece ++ rest) = openedNames rest := by
  induction piece with
  | nil => rfl
  | cons char piece ih =>
      obtain ⟨hchar, hmore⟩ : '{' ≠ char ∧ '{' ∉ piece := by simpa using hpiece
      rw [List.cons_append, openedNames, if_neg hchar.symm, ih hmore]

theorem openedNames_spelling_append {token : PathToken} {rest : List Char}
    (hends : token.EndsBefore rest) :
    openedNames (token.spelling ++ rest) =
      token.variableName?.toList.map String.toList ++ openedNames rest := by
  cases token with
  | literal text =>
      refine openedNames_append fun hmem => ?_
      have hplain := List.all_eq_true.mp hends.2.1 '{' hmem
      simp [isSpecial] at hplain
  | withinSegment => exact openedNames_append (by decide)
  | anything => exact openedNames_append (by decide)
  | subtree => exact openedNames_append (by decide)
  | capture name =>
      have hword : IsWord name.toList := hends
      have hplain : '{' ∉ name.toList ++ ['}'] := by
        simpa using hword.not_mem (by decide)
      have hname : (name.toList ++ ['}'] ++ rest).takeWhile (· ≠ '}') = name.toList := by
        have hclosed : '}' ∉ name.toList := hword.not_mem (by decide)
        rw [List.append_assoc, List.takeWhile_append_of_pos (by grind)]
        simp
      rw [spelling, List.cons_append, openedNames, if_pos rfl, hname, openedNames_append hplain]
      rfl

theorem openedNames_spell {tokens : List PathToken} (hcanonical : Canonical tokens) :
    openedNames (spell tokens) = (tokens.filterMap variableName?).map String.toList := by
  induction tokens with
  | nil => rfl
  | cons token tokens ih =>
      obtain ⟨hends, hrest⟩ := hcanonical
      have happend := openedNames_spelling_append hends
      rw [ih hrest] at happend
      rw [spell, List.flatMap_cons, ← spell, happend]
      cases hname : variableName? token <;> simp [hname]

/-- A name begins with a digit. -/
def BeginsWithDigit (name : List Char) : Prop := name.head?.any Text.isAsciiDigit = true

theorem nameFault?_eq_none_iff {seen names : List String} :
    nameFault? seen names = none ↔
      (∀ name ∈ names, ¬ BeginsWithDigit name.toList) ∧ names.Nodup ∧
        ∀ name ∈ names, name ∉ seen := by
  induction names generalizing seen with
  | nil => simp [nameFault?]
  | cons name names ih =>
      unfold nameFault?
      split
      next hdigit => simp [BeginsWithDigit, hdigit]
      next hdigit =>
        split
        next hseen => simp_all
        next hseen =>
          rw [ih]
          simp only [BeginsWithDigit] at *
          grind

theorem nameFault?_ne_tooLarge (seen names : List String) :
    nameFault? seen names ≠ some .tooLarge := by
  induction names generalizing seen with
  | nil => simp [nameFault?]
  | cons name names ih =>
      unfold nameFault?
      split
      next => simp
      next => split <;> simp_all

end EdgeGateway.Route.PathToken
