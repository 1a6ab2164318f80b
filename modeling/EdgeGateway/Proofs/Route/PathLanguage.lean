import EdgeGateway.Proofs.Regex.Passing
import EdgeGateway.Proofs.Route.Edits
import EdgeGateway.Proofs.Route.PathTokens
import Mathlib.Data.List.Forall2
import Mathlib.Data.List.Nodup

/-!
# What path patterns mean

A pattern matches the paths that can be cut into pieces, one for each token, and
captures the pieces of its variables.  A pattern is refused if it is not rooted,
if a brace opens no variable, or if a name begins with a digit or is used twice;
beyond that only very long patterns are.
-/

namespace EdgeGateway.Route

open Regex (Expr Place Captures Passes)

namespace PathToken

/-- A token stands for a piece of a path. -/
def Covers : PathToken → List Char → Prop
  | literal text, piece => piece = text
  | withinSegment, piece => '/' ∉ piece
  | anything, piece => '\n' ∉ piece
  | capture _, piece => piece ≠ [] ∧ '/' ∉ piece
  | subtree, piece => piece = [] ∨ ∃ rest, piece = '/' :: rest ∧ '\n' ∉ rest

/-- A path is cut into consecutive pieces, one for each token. -/
def Splits (tokens : List PathToken) (path : List Char) (pieces : List (List Char)) : Prop :=
  List.Forall₂ Covers tokens pieces ∧ pieces.flatten = path

/-- The pieces that the variables stand for, with their names. -/
def bindings : List PathToken → List (List Char) → List (String × List Char)
  | token :: tokens, piece :: pieces =>
      (variableName? token).toList.map (·, piece) ++ bindings tokens pieces
  | _, _ => []

/-- Pieces as groups capture them that are numbered in order. -/
def numbered (index : Nat) : List (List Char) → Captures
  | [] => []
  | piece :: pieces => numbered (index + 1) pieces ++ [(index, piece)]

/-! ## Expressions of tokens -/

theorem spans_iterate_anyBut {code : Nat} (char : Char) (hcode : char.toNat = code)
    {least : Nat} {first final : Place} {captured : Captures} :
    (Expr.iterate (.oneOf (Unicode.CodeRanges.complement [(code, code)])) least none
        true).Spans first final captured ↔
      captured = [] ∧ ∃ piece, least ≤ piece.length ∧ char ∉ piece ∧
        Passes first piece final := by
  have hall : ∀ piece : List Char, (∀ other ∈ piece,
      (Unicode.CodeRanges.complement [(code, code)]).containsChar other = true) ↔
        char ∉ piece := by
    intro piece
    simp only [Regex.containsChar_complement_singleton, ← hcode, ne_eq, Char.toNat_inj]
    grind
  rw [Regex.spans_iterate_oneOf]
  simp only [hall]

theorem toNat_newline : '\n'.toNat = 0x0A := rfl

/-- A subtree is nothing, or a slash and what follows it on the line. -/
theorem spans_subtree (index : Nat) {first final : Place} {captured : Captures} :
    (subtree.expr index).Spans first final captured ↔
      ∃ piece, subtree.Covers piece ∧ Passes first piece final ∧ captured = [] := by
  rw [expr, Regex.spans_optional, Expr.star, Expr.anyButNewline]
  simp only [Covers]
  constructor
  · rintro (⟨rfl, rfl⟩ | ⟨middle, _, _, hslash, hmore, rfl⟩)
    · exact ⟨[], Or.inl rfl, .nil _, rfl⟩
    · obtain ⟨rfl, hpassed⟩ := Regex.spans_char.mp hslash
      obtain ⟨rfl, rest, -, hline, hpasses⟩ :=
        (spans_iterate_anyBut '\n' toNat_newline).mp hmore
      exact ⟨'/' :: rest, Or.inr ⟨rest, rfl, hline⟩,
        Regex.passes_append.mpr ⟨middle, hpassed, hpasses⟩, rfl⟩
  · rintro ⟨_, rfl | ⟨rest, rfl, hline⟩, hpasses, rfl⟩
    · exact Or.inl ⟨Regex.passes_nil.mp hpasses, rfl⟩
    · obtain ⟨middle, hslash, hmore⟩ :
          ∃ middle, Passes first ['/'] middle ∧ Passes middle rest final :=
        Regex.passes_append.mp hpasses
      exact Or.inr ⟨middle, [], [], Regex.spans_char.mpr ⟨rfl, hslash⟩,
        (spans_iterate_anyBut '\n' toNat_newline).mpr
          ⟨rfl, rest, Nat.zero_le _, hline, hmore⟩, rfl⟩

/-- The expression of a token passes the pieces that the token stands for. -/
theorem spans_expr (token : PathToken) (index : Nat) {first final : Place}
    {captured : Captures} :
    (token.expr index).Spans first final captured ↔
      ∃ piece, token.Covers piece ∧ Passes first piece final ∧
        captured = (variableName? token).toList.map fun _ => (index, piece) := by
  cases token with
  | literal text =>
      simp only [expr, Regex.spans_literal, Covers, variableName?, Option.toList_none,
        List.map_nil, exists_eq_left]
      exact and_comm
  | withinSegment =>
      rw [expr, Expr.star, Expr.anyBut, spans_iterate_anyBut '/' rfl]
      simp only [Covers, variableName?, Option.toList_none, List.map_nil, Nat.zero_le, true_and]
      grind
  | anything =>
      rw [expr, Expr.star, Expr.anyButNewline, spans_iterate_anyBut '\n' toNat_newline]
      simp only [Covers, variableName?, Option.toList_none, List.map_nil, Nat.zero_le, true_and]
      grind
  | capture name =>
      rw [expr, Expr.plus, Expr.anyBut]
      constructor
      · rintro ⟨inside, hinside, rfl⟩
        obtain ⟨rfl, piece, hlength, hslash, hpasses⟩ := (spans_iterate_anyBut '/' rfl).mp hinside
        refine ⟨piece, ⟨List.ne_nil_of_length_pos hlength, hslash⟩, hpasses, ?_⟩
        rw [hpasses.between_eq]
        rfl
      · rintro ⟨piece, ⟨hsome, hslash⟩, hpasses, rfl⟩
        have hlength := List.length_pos_iff.mpr hsome
        refine ⟨[], (spans_iterate_anyBut '/' rfl).mpr ⟨rfl, piece, hlength, hslash, hpasses⟩, ?_⟩
        rw [hpasses.between_eq]
        rfl
  | subtree => exact spans_subtree index

/-- The expressions of tokens pass the pieces that the tokens stand for, up to the
end of the text. -/
theorem spans_exprs (tokens : List PathToken) (index : Nat) {first final : Place}
    {captured : Captures} :
    (Expr.sequence (exprs index tokens ++ [.endsText])).Spans first final captured ↔
      ∃ pieces, List.Forall₂ Covers tokens pieces ∧ Passes first pieces.flatten final ∧
        final.rest = [] ∧
        captured = numbered index ((bindings tokens pieces).map Prod.snd) := by
  induction tokens generalizing index first captured with
  | nil =>
      simp only [exprs, List.nil_append, Expr.sequence, Regex.spans_endsText,
        List.forall₂_nil_left_iff, exists_eq_left, List.flatten_nil, Regex.passes_nil]
      constructor
      · rintro ⟨rfl, rfl, hrest⟩
        exact ⟨rfl, hrest, rfl⟩
      · rintro ⟨rfl, hrest, rfl⟩
        exact ⟨rfl, rfl, hrest⟩
  | cons token tokens ih =>
      rw [exprs, List.cons_append, Regex.spans_sequence_cons (by simp)]
      constructor
      · rintro ⟨middle, _, _, htoken, hmore, rfl⟩
        obtain ⟨piece, hcovers, hpassed, rfl⟩ := (spans_expr token index).mp htoken
        obtain ⟨pieces, hpieces, hpasses, hrest, rfl⟩ := (ih _).mp hmore
        refine ⟨piece :: pieces, .cons hcovers hpieces,
          Regex.passes_append.mpr ⟨middle, hpassed, hpasses⟩, hrest, ?_⟩
        cases hname : variableName? token <;> simp [bindings, hname, numbered]
      · rintro ⟨_, hpieces, hpasses, hrest, rfl⟩
        obtain ⟨piece, pieces, hcovers, hmore, rfl⟩ := List.forall₂_cons_left_iff.mp hpieces
        obtain ⟨middle, hpassed, hpasses⟩ := Regex.passes_append.mp hpasses
        refine ⟨middle, _, _, (spans_expr token index).mpr ⟨piece, hcovers, hpassed, rfl⟩,
          (ih _).mpr ⟨pieces, hmore, hpasses, hrest, rfl⟩, ?_⟩
        cases hname : variableName? token <;> simp [bindings, hname, numbered]

/-- The expression of a whole pattern. -/
def wholeExpr (tokens : List PathToken) : Expr :=
  Expr.sequence (.startsText :: exprs 1 tokens ++ [.endsText])

theorem spans_wholeExpr {tokens : List PathToken} {path : List Char} {first final : Place}
    {captured : Captures} (hfirst : first.IsIn path)
    (hspans : (wholeExpr tokens).Spans first final captured) :
    ∃ pieces, Splits tokens path pieces ∧
      captured = numbered 1 ((bindings tokens pieces).map Prod.snd) := by
  rw [wholeExpr, List.cons_append, Regex.spans_sequence_cons (by simp)] at hspans
  obtain ⟨middle, _, _, hstart, hmore, rfl⟩ := hspans
  obtain ⟨rfl, rfl, hprevious⟩ := Regex.spans_startsText.mp hstart
  obtain ⟨pieces, hpieces, hpasses, hrest, rfl⟩ := (spans_exprs tokens 1).mp hmore
  obtain ⟨before, hpath, -, hlast⟩ := hfirst
  obtain rfl : before = [] := List.getLast?_eq_none_iff.mp (hlast.symm.trans hprevious)
  refine ⟨pieces, ⟨hpieces, ?_⟩, List.append_nil _⟩
  rw [hpath, hpasses.rest_eq, hrest, List.nil_append, List.append_nil]

theorem exists_spans_wholeExpr {tokens : List PathToken} {path : List Char}
    {pieces : List (List Char)} (hsplits : Splits tokens path pieces) :
    ∃ final captured, (wholeExpr tokens).Spans (.start path) final captured := by
  obtain ⟨hpieces, rfl⟩ := hsplits
  have htext : (Place.start pieces.flatten).rest = pieces.flatten ++ [] :=
    (List.append_nil _).symm
  obtain ⟨final, hpasses, hrest⟩ := Regex.exists_passes htext
  have hstart : Expr.startsText.Spans (.start pieces.flatten) (.start pieces.flatten) [] :=
    Regex.spans_startsText.mpr ⟨rfl, rfl, rfl⟩
  have hmore := (spans_exprs tokens 1).mpr ⟨pieces, hpieces, hpasses, hrest, rfl⟩
  have hsequence : (exprs 1 tokens ++ [Expr.endsText]) ≠ [] := by simp
  exact ⟨final, _, (Regex.spans_sequence_cons hsequence).mpr
    ⟨_, _, _, hstart, hmore, rfl⟩⟩

/-! ## Captured pieces -/

theorem map_fst_bindings {tokens : List PathToken} {pieces : List (List Char)}
    (hlength : tokens.length = pieces.length) :
    (bindings tokens pieces).map Prod.fst = tokens.filterMap variableName? := by
  induction tokens generalizing pieces with
  | nil => cases pieces <;> rfl
  | cons token tokens ih =>
      obtain ⟨piece, pieces, rfl⟩ := List.exists_cons_of_length_eq_add_one hlength.symm
      have hmore := ih (by simpa using hlength)
      cases hname : variableName? token <;> simp [bindings, hname, hmore]

theorem groupNames_eq (tokens : List PathToken) :
    groupNames tokens = (tokens.filterMap variableName?).zipIdx 1 := by
  rw [List.zipIdx_eq_map_add (i := 1)]
  simp only [groupNames, Nat.add_comm]

theorem find?_numbered {index later : Nat} (hlater : index < later)
    (pieces : List (List Char)) (earlier : Captures) :
    (numbered later pieces ++ earlier).find? (fun (known, _) => known = index) =
      earlier.find? fun (known, _) => known = index := by
  induction pieces generalizing later earlier with
  | nil => rfl
  | cons piece pieces ih =>
      rw [numbered, List.append_assoc, ih (Nat.lt_succ_of_lt hlater), List.singleton_append,
        List.find?_cons_of_neg (by simpa using Nat.ne_of_gt hlater)]

/-- Groups that are numbered in order are found under their numbers. -/
theorem filterMap_group? {found : Regex.Match} (bound : List (String × List Char))
    {index : Nat} (hindex : index ≠ 0) {earlier : Captures}
    (hcaptures : found.captures = numbered index (bound.map Prod.snd) ++ earlier) :
    ((bound.map Prod.fst).zipIdx index).filterMap (fun (name, known) =>
        (found.group? known).map fun captured => (name, String.ofList captured)) =
      bound.map fun (name, piece) => (name, String.ofList piece) := by
  induction bound generalizing index earlier with
  | nil => rfl
  | cons first rest ih =>
      obtain ⟨name, piece⟩ := first
      rw [List.map_cons, numbered, List.append_assoc, List.singleton_append] at hcaptures
      have hgroup : found.group? index = some piece := by
        rw [Regex.Match.group?, if_neg hindex, hcaptures,
          find?_numbered (Nat.lt_succ_self index)]
        simp
      simp only [List.map_cons, List.zipIdx_cons, List.filterMap_cons, hgroup,
        Option.map_some, ih (Nat.succ_ne_zero index) hcaptures]

/-! ## Size -/

theorem setWeight_le (members : Unicode.CodeRanges) :
    Expr.setWeight members ≤ 256 + 24 * members.length := by
  have hstate : Expr.stateWeight = 32 := rfl
  unfold Expr.setWeight
  split
  next => split <;> omega
  next =>
    split
    next => split <;> (try split) <;> (try split) <;> simp [hstate]
    next => omega

theorem length_complement_singleton_le (code : Nat) :
    (Unicode.CodeRanges.complement [(code, code)]).length ≤ 2 := by
  rw [Regex.complement_singleton]
  simp only [Unicode.CodeRanges.gaps]
  split <;> split <;> simp

theorem weight_oneOf_complement_le (code : Nat) :
    (Expr.oneOf (Unicode.CodeRanges.complement [(code, code)])).weight ≤ 304 := by
  have hset := setWeight_le (Unicode.CodeRanges.complement [(code, code)])
  have hlength := length_complement_singleton_le code
  rw [Expr.weight]
  omega

theorem weight_char_le (char : Char) : (Expr.char char).weight ≤ 280 := setWeight_le _

theorem weight_literal_le {text : List Char} (htext : text ≠ []) :
    (Expr.literal text).weight ≤ 280 * text.length := by
  induction text with
  | nil => exact absurd rfl htext
  | cons char text ih =>
      have hchar := weight_char_le char
      cases text with
      | nil => simpa [Expr.literal] using hchar
      | cons next text =>
          have hmore := ih (List.cons_ne_nil next text)
          rw [List.length_cons]
          exact Nat.le_trans (Nat.add_le_add hchar hmore) (by omega)

theorem weight_star (inner : Expr) : inner.star.weight = inner.weight + 64 := by
  simp [Expr.star, Expr.weight, Expr.stateWeight]

theorem weight_plus (inner : Expr) : inner.plus.weight = inner.weight + 64 := by
  simp [Expr.plus, Expr.weight, Expr.stateWeight]

theorem weight_optional (inner : Expr) : inner.optional.weight = inner.weight + 80 := by
  simp [Expr.optional, Expr.weight, Expr.stateWeight]

/-- The weight of a token is bounded by its length in the pattern. -/
theorem weight_expr_le {token : PathToken} {rest : List Char} (index : Nat)
    (hends : token.EndsBefore rest) :
    (token.expr index).weight ≤ 500 * token.spelling.length := by
  have hslash : (Expr.anyBut '/').weight ≤ 304 := weight_oneOf_complement_le _
  have hnewline : Expr.anyButNewline.weight ≤ 304 := weight_oneOf_complement_le _
  cases token with
  | literal text =>
      have hliteral := weight_literal_le hends.1
      simp only [expr, spelling]
      omega
  | withinSegment =>
      rw [expr, spelling, weight_star, List.length_singleton]
      omega
  | anything =>
      rw [expr, spelling, weight_star, List.length_cons]
      omega
  | capture name =>
      have hplus := weight_plus (.anyBut '/')
      have hgroup : ((capture name).expr index).weight = (Expr.anyBut '/').plus.weight + 64 := rfl
      rw [spelling, List.length_cons]
      omega
  | subtree =>
      have hchar := weight_char_le '/'
      have hstar := weight_star .anyButNewline
      have hseq : (Expr.seq (.char '/') (.star .anyButNewline)).weight =
          (Expr.char '/').weight + (Expr.star .anyButNewline).weight := rfl
      rw [expr, spelling, weight_optional, hseq, List.length_cons, List.length_cons]
      omega

theorem weight_sequence_cons_le (head : Expr) (rest : List Expr) :
    (Expr.sequence (head :: rest)).weight ≤ head.weight + (Expr.sequence rest).weight := by
  cases rest with
  | nil => simp [Expr.sequence]
  | cons next rest => exact Nat.le_refl _

theorem weight_exprs_le {tokens : List PathToken} (hcanonical : Canonical tokens)
    (index : Nat) :
    (Expr.sequence (exprs index tokens ++ [.endsText])).weight ≤
      500 * (spell tokens).length + 32 := by
  induction tokens generalizing index with
  | nil => exact Nat.le_refl _
  | cons token tokens ih =>
      obtain ⟨hends, hrest⟩ := hcanonical
      have htoken := weight_expr_le index hends
      have hmore := ih hrest (if (variableName? token).isSome then index + 1 else index)
      have hsequence := weight_sequence_cons_le (token.expr index)
        (exprs (if (variableName? token).isSome then index + 1 else index) tokens ++
          [.endsText])
      rw [spell, List.flatMap_cons, List.length_append, ← spell, exprs, List.cons_append]
      omega

theorem weight_wholeExpr_le {tokens : List PathToken} (hcanonical : Canonical tokens) :
    (wholeExpr tokens).weight ≤ 500 * (spell tokens).length + 64 := by
  have hmore := weight_exprs_le hcanonical 1
  have hsequence := weight_sequence_cons_le .startsText (exprs 1 tokens ++ [.endsText])
  have hstart : Expr.startsText.weight = 32 := rfl
  rw [wholeExpr, List.cons_append]
  omega

end PathToken

namespace PathPattern

open PathToken

/-- A pattern as it is to be written. -/
structure WellFormed (text : String) : Prop where
  rooted : IsRooted text
  braced : Braced text.toList
  lettered : ∀ name ∈ openedNames text.toList, ¬ BeginsWithDigit name
  distinct : (openedNames text.toList).Nodup

/-- The error of a pattern that is too large. -/
def tooLarge (text : String) : Error :=
  .invalidPattern text (.invalidRegex .tooLarge)

/-- All that can come of reading a pattern. -/
inductive Reading (text : String) : Except PatternFault PathPattern → Prop
  | refused {fault : PatternFault} (hill : ¬ WellFormed text)
      (hfault : fault ≠ .invalidRegex .tooLarge) : Reading text (.error fault)
  | tooLarge (hwell : WellFormed text) (hlong : 20000 < text.length) :
      Reading text (.error (.invalidRegex .tooLarge))
  | read {tokens : List PathToken} (hwell : WellFormed text)
      (hcanonical : Canonical tokens) (hspell : spell tokens = text.toList) :
      Reading text (.ok ⟨tokens, ⟨text, wholeExpr tokens, groupNames tokens⟩⟩)

/-- The faults of names are those of the names in the text. -/
theorem nameFault?_tokens {text : String} {tokens : List PathToken}
    (hcanonical : Canonical tokens) (hspell : spell tokens = text.toList) :
    nameFault? [] (tokens.filterMap variableName?) = none ↔
      (∀ name ∈ openedNames text.toList, ¬ BeginsWithDigit name) ∧
        (openedNames text.toList).Nodup := by
  have hinjective : Function.Injective String.toList := fun _ _ => String.toList_inj.mp
  rw [nameFault?_eq_none_iff, ← hspell, openedNames_spell hcanonical,
    List.nodup_map_iff hinjective, List.forall_mem_map]
  simp only [List.not_mem_nil, not_false_eq_true, implies_true, and_true]

/-- The tokens of a pattern are turned into an expression. -/
def assemble (text : String) (tokens : List PathToken) : Except PatternFault PathPattern :=
  match nameFault? [] (tokens.filterMap variableName?) with
  | some fault => .error (.invalidRegex fault)
  | none =>
      match Regex.Pattern.ofExpr text (wholeExpr tokens) (groupNames tokens) with
      | .ok pattern => .ok ⟨tokens, pattern⟩
      | .error error => .error (.invalidRegex error)

theorem read_of_rooted {text : String} (hrooted : IsRooted text) :
    read text = readTokens (text.toList.length + 1) text.toList >>= assemble text := by
  have hhead : text.toList.head? = some '/' := hrooted
  unfold read
  rw [if_neg (by simp [hhead])]
  rfl

theorem reading_assemble {text : String} {tokens : List PathToken}
    (hrooted : IsRooted text) (hbraced : Braced text.toList)
    (hcanonical : Canonical tokens) (hspell : spell tokens = text.toList) :
    Reading text (assemble text tokens) := by
  have hnames := nameFault?_tokens hcanonical hspell
  unfold assemble
  split
  next fault hfault =>
    refine .refused (fun hwell => ?_) fun hlarge => ?_
    · simp [hnames.mpr ⟨hwell.lettered, hwell.distinct⟩] at hfault
    · obtain rfl : fault = .tooLarge := by simpa using hlarge
      exact nameFault?_ne_tooLarge _ _ hfault
  next hnone =>
    obtain ⟨hlettered, hdistinct⟩ := hnames.mp hnone
    have hwell : WellFormed text := ⟨hrooted, hbraced, hlettered, hdistinct⟩
    unfold Regex.Pattern.ofExpr
    by_cases hweight : (wholeExpr tokens).weight > Expr.weightLimit
    · have hlimit : Expr.weightLimit = 10485760 := by decide
      have hbound := weight_wholeExpr_le hcanonical
      rw [hspell, String.length_toList] at hbound
      rw [if_pos hweight]
      exact .tooLarge hwell (by omega)
    · rw [if_neg hweight]
      exact .read hwell hcanonical hspell

theorem reading_read (text : String) : Reading text (read text) := by
  by_cases hrooted : IsRooted text
  · rw [read_of_rooted hrooted]
    rcases readTokens_spec (text.toList.length + 1) text.toList (Nat.lt_succ_self _) with
      ⟨⟨tokens, hread, hcanonical, hspell⟩, hbraced⟩ | ⟨⟨fault, hread, hfault⟩, hbraced⟩
    · rw [hread]
      exact reading_assemble hrooted hbraced hcanonical hspell
    · rw [hread]
      exact .refused (fun hwell => hbraced hwell.braced) hfault
  · have hread : read text = .error .relative := by
      have hhead : text.toList.head? ≠ some '/' := hrooted
      unfold read
      rw [if_pos hhead]
      rfl
    rw [hread]
    exact .refused (fun hwell => hrooted hwell.rooted) (by simp)

/-- A compiled pattern means what is written. -/
structure Means (pattern : PathPattern) (text : String) : Prop where
  /-- The tokens are the one way to write the text as tokens. -/
  tokens : ∀ tokens, tokens = pattern.tokens ↔
    Canonical tokens ∧ spell tokens = text.toList
  isMatch_iff : ∀ path, pattern.isMatch path = true ↔
    ∃ pieces, Splits pattern.tokens path.toList pieces
  captures : ∀ path, (pattern.captures? path).isSome = pattern.isMatch path
  names : ∀ path captured, pattern.captures? path = some captured →
    captured.map Prod.fst = (openedNames text.toList).map String.ofList
  values : ∀ path captured, pattern.captures? path = some captured →
    ∃ pieces, Splits pattern.tokens path.toList pieces ∧
      captured = (bindings pattern.tokens pieces).map
        fun (name, piece) => (name, String.ofList piece)

theorem eq_of_spell_eq {tokens others : List PathToken} (htokens : Canonical tokens)
    (hothers : Canonical others) (hspell : spell tokens = spell others) :
    tokens = others := by
  have hread := readTokens_spell htokens _ (Nat.lt_succ_self _)
  rw [hspell, readTokens_spell hothers _ (Nat.lt_succ_self _)] at hread
  exact (Except.ok.inj hread).symm

/-- What a match captures are the pieces of one way to cut the path. -/
theorem exists_splits_of_captures? {tokens : List PathToken} {text path : String}
    {captured : List (String × String)}
    (hcaptured : captures? ⟨tokens, ⟨text, wholeExpr tokens, groupNames tokens⟩⟩ path =
      some captured) :
    ∃ pieces, Splits tokens path.toList pieces ∧
      captured = (bindings tokens pieces).map
        fun (name, piece) => (name, String.ofList piece) := by
  obtain ⟨found, hfound, rfl⟩ := Option.map_eq_some_iff.mp hcaptured
  obtain ⟨first, final, hcovers⟩ := Regex.Pattern.search?_eq_some hfound
  obtain ⟨pieces, hsplits, hcaptures⟩ := spans_wholeExpr hcovers.place hcovers.spans
  refine ⟨pieces, hsplits, ?_⟩
  rw [groupNames_eq, ← map_fst_bindings hsplits.1.length_eq]
  exact filterMap_group? _ Nat.one_ne_zero (hcaptures.trans (List.append_nil _).symm)

theorem means_of_canonical {text : String} {tokens : List PathToken}
    (hcanonical : Canonical tokens) (hspell : spell tokens = text.toList) :
    Means ⟨tokens, ⟨text, wholeExpr tokens, groupNames tokens⟩⟩ text where
  tokens others := by
    constructor
    · rintro rfl
      exact ⟨hcanonical, hspell⟩
    · rintro ⟨hothers, hsame⟩
      exact eq_of_spell_eq hothers hcanonical (hsame.trans hspell.symm)
  isMatch_iff path := by
    refine Regex.Pattern.isMatch_iff.trans ⟨?_, ?_⟩
    · rintro ⟨first, final, captured, hfirst, hspans⟩
      obtain ⟨pieces, hsplits, -⟩ := spans_wholeExpr hfirst hspans
      exact ⟨pieces, hsplits⟩
    · rintro ⟨pieces, hsplits⟩
      obtain ⟨final, captured, hspans⟩ := exists_spans_wholeExpr hsplits
      exact ⟨_, final, captured, .start _, hspans⟩
  captures path := Option.isSome_map
  names path captured hcaptured := by
    obtain ⟨pieces, hsplits, rfl⟩ := exists_splits_of_captures? hcaptured
    have hnames := map_fst_bindings hsplits.1.length_eq
    rw [← hspell, openedNames_spell hcanonical, ← hnames]
    simp
  values path captured := exists_splits_of_captures?

/-- A pattern compiles if it is well formed, unless it is very long, and then matches
the paths that can be cut into pieces for its tokens. -/
theorem means_what_is_written (text : String) :
    (WellFormed text ↔
      (∃ pattern, compile text = .ok pattern) ∨ compile text = .error (tooLarge text)) ∧
    (compile text = .error (tooLarge text) → 20000 < text.length) ∧
    ∀ pattern, compile text = .ok pattern → pattern.Means text := by
  have hreading := reading_read text
  unfold compile
  generalize read text = attempt at hreading ⊢
  cases hreading with
  | refused hill hfault =>
      exact ⟨by simp [hill, hfault, tooLarge], by simp [hfault, tooLarge], by simp⟩
  | tooLarge hwell hlong =>
      exact ⟨by simp [hwell, PathPattern.tooLarge], fun _ => hlong, by simp⟩
  | read hwell hcanonical hspell =>
      refine ⟨by simp [hwell], by simp, ?_⟩
      rintro _ ⟨⟩
      exact means_of_canonical hcanonical hspell

/-- Of two wildcards side by side each may take the text between them. -/
theorem report_path_split :
    ∃ pattern, compile "/users/\x7bid\x7d/*-*/**" = .ok pattern ∧
      pattern.isMatch "/users/7/a-b-c" = true ∧
      (∃ pieces, Splits pattern.tokens "/users/7/a-b-c".toList pieces) ∧
      pattern.isMatch "/users/7/abc" = false ∧
      ¬ ∃ pieces, Splits pattern.tokens "/users/7/abc".toList pieces := by
  obtain ⟨pattern, hcompile, htest⟩ : ∃ pattern,
      compile "/users/\x7bid\x7d/*-*/**" = .ok pattern ∧
        (pattern.isMatch "/users/7/a-b-c" && !pattern.isMatch "/users/7/abc") = true :=
    exists_ok_of_any (by decide +kernel)
  obtain ⟨hmatch, hother⟩ : pattern.isMatch "/users/7/a-b-c" = true ∧
      pattern.isMatch "/users/7/abc" = false := by simpa using htest
  have hmeans := (means_what_is_written _).2.2 pattern hcompile
  exact ⟨pattern, hcompile, hmatch, (hmeans.isMatch_iff _).mp hmatch, hother,
    fun hsplits => by simp [(hmeans.isMatch_iff _).mpr hsplits] at hother⟩

end PathPattern

end EdgeGateway.Route
