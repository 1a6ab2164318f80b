import EdgeGateway.Proofs.Regex.Enclosing
import EdgeGateway.Proofs.Regex.Matching
import EdgeGateway.Proofs.Regex.Passing

/-!
# Patterns for whole values

A pattern can be made to match whole texts only by writing it between `^(?:` and
`)$`.  This does what it is meant to do to a pattern that stands on its own and
whose end no comment hides.
-/

namespace EdgeGateway.Regex

open Reader
open Unicode (NamedSets)

/-- The text of a pattern for whole texts. -/
def wrapped (text : String) : String := "^(?:" ++ text ++ ")$"

namespace Expr

/-- An expression in parentheses between the ends of a text. -/
def whole (inner : Expr) : Expr := .seq .startsText (.seq (.group none inner) .endsText)

/-- An expression leads from one end of a text to the other. -/
def MatchesWhole (expr : Expr) (text : String) : Prop :=
  ∃ final captured, expr.Spans (.start text.toList) final captured ∧ final.rest = []

/-- The expression of a wrapped pattern matches where that of the pattern leads from one
end of the text to the other. -/
theorem exists_spans_whole {inner : Expr} {text : String} :
    (∃ first final captured, first.IsIn text.toList ∧ inner.whole.Spans first final captured) ↔
      inner.MatchesWhole text := by
  constructor
  · rintro ⟨first, final, _, ⟨before, htext, hposition, hlast⟩, hwhole⟩
    obtain ⟨middle, _, _, hstart, ⟨last, _, _, ⟨inside, hinner, -⟩, hend, rfl⟩, rfl⟩ := hwhole
    obtain ⟨rfl, rfl, hprevious⟩ := spans_startsText.mp hstart
    obtain ⟨rfl, rfl, hrest⟩ := spans_endsText.mp hend
    obtain rfl : before = [] := List.getLast?_eq_none_iff.mp (hlast.symm.trans hprevious)
    refine ⟨final, inside, ?_, hrest⟩
    obtain ⟨position, previous, rest⟩ := middle
    obtain rfl : text.toList = rest := htext
    obtain rfl : position = 0 := hposition
    obtain rfl : previous = none := hprevious
    exact hinner
  · rintro ⟨final, captured, hinner, hrest⟩
    refine ⟨.start text.toList, final, captured, .start _, .start text.toList, [], captured,
      spans_startsText.mpr ⟨rfl, rfl, rfl⟩, ⟨final, captured, [], ⟨captured, hinner, rfl⟩,
        spans_endsText.mpr ⟨rfl, rfl, hrest⟩, rfl⟩, (List.append_nil _).symm⟩

end Expr

/-- The scan in which a pattern begins. -/
def Scan.start (text : List Char) : Scan := ⟨text, {}, 0, []⟩

section Reading

variable [NamedSets]

/-- What is read of a pattern. -/
def readPattern (text : List Char) : Except SyntaxError (Expr × Scan) :=
  (readBranches (2 * text.length + 2) 0 [] [] false).run (.start text)

theorem read_eq (source : String) :
    read source = (readPattern source.toList).map fun (expr, scan) =>
      ⟨expr, scan.groupNames⟩ := by
  show readPattern source.toList >>= _ = _
  cases readPattern source.toList <;> rfl

theorem read_eq_ok {source : String} {reading : Reading} :
    read source = .ok reading ↔ ∃ expr scan, readPattern source.toList = .ok (expr, scan) ∧
      ⟨expr, scan.groupNames⟩ = reading := by
  rw [read_eq]
  rcases readPattern source.toList with error | ⟨expr, scan⟩ <;> simp [Except.map, eq_comm]

theorem read_eq_error {source : String} {error : SyntaxError} :
    read source = .error error ↔ readPattern source.toList = .error error := by
  rw [read_eq]
  cases readPattern source.toList <;> simp [Except.map]

/-! ## Between the ends of a text -/

/-- What is read of a pattern inside the parentheses of the wrapping. -/
def readInside (text : List Char) : Except SyntaxError (Expr × Scan) :=
  (readBranches (2 * text.length + 12) 1 [] [] false).run
    ((Scan.start text).followedBy [')', '$'])

/-- The reading of a pattern alone and inside the parentheses of the wrapping. -/
inductive Inside (text : List Char) : Prop
  | kept {expr : Expr} {final : Scan} (halone : readPattern text = .ok (expr, final))
      (hend : final.rest = [])
      (hbehind : readPattern (text ++ [')']) = .error .unopenedGroup)
      (hinside : readInside text = .ok (expr, final.followedBy [')', '$']))
  | swallowed {expr : Expr} {final : Scan} {error : SyntaxError}
      (halone : readPattern text = .ok (expr, final))
      (hbehind : readPattern (text ++ [')']) ≠ .error .unopenedGroup)
      (hinside : readInside text = .error error)
  | failed {error : SyntaxError} (halone : readPattern text = .error error)
      (hinside : ∀ expr final, readInside text = .ok (expr, final) → error = .unopenedGroup)

omit [NamedSets] in
theorem closing_parenthesis : Closing [')'] := ⟨rfl, by simp⟩

omit [NamedSets] in
theorem closing_dollar : Closing [')', '$'] := ⟨rfl, by simp⟩

theorem inside (text : List Char) : Inside text := by
  have henclosed : Enclosed 0 (readPattern text) fun lift tail =>
      (readBranches (2 * (text ++ tail).length + 2 + 6 * lift) (0 + lift) [] [] false).run
        ((Scan.start text).followedBy tail) := by
    refine enclosed_readBranches 0 [] [] false ?_ fun lift tail => ?_
    · show text.length < _
      omega
    · show (text ++ tail).length < _
      omega
  have hfuel : 2 * (text ++ [')', '$']).length + 2 + 6 * 1 = 2 * text.length + 12 := by
    rw [List.length_append, List.length_cons, List.length_singleton]
    omega
  rcases henclosed with
    ⟨halone, honward⟩ | ⟨-, halone, honward⟩ | ⟨halone, honward⟩
  case kept expr final =>
    have hdollar := honward 1 _ closing_dollar
    rw [hfuel] at hdollar
    exact .kept halone (List.head?_eq_none_iff.mp (readBranches_eq_ok halone).2)
      (honward 0 _ closing_parenthesis) hdollar
  case swallowed expr final =>
    have hdollar := honward 1 _ closing_dollar
    rw [hfuel] at hdollar
    refine .swallowed halone (fun herror => ?_) hdollar
    cases herror.symm.trans (honward 0 _ closing_parenthesis)
  case failed error =>
    refine .failed halone fun expr final hok => ?_
    have hdollar := honward 1 _ closing_dollar
    rw [hfuel] at hdollar
    rcases hdollar expr final hok with hopened | hpast
    · exact hopened
    · obtain ⟨more, hmore⟩ := List.head?_eq_some_iff.mp (readBranches_eq_ok hok).2
      have hmem : ')' ∈ ['$'] := hpast.subset (hmore ▸ List.mem_cons_self)
      simp at hmem

/-- What follows the caret and the opening parenthesis. -/
theorem readPattern_wrapped (text : String) :
    readPattern (wrapped text).toList =
      (afterMove [] [.startsText] (2 * text.toList.length + 12) 0 (.nested none {})).run
        ((Scan.start text.toList).followedBy [')', '$']) := by
  have htext : (wrapped text).toList =
      '^' :: '(' :: '?' :: ':' :: (text.toList ++ [')', '$']) := by
    simp [wrapped, String.toList_append]
  have hfuel : 2 * (wrapped text).toList.length + 2 = 2 * text.toList.length + 12 + 2 := by
    simp only [htext, List.length_cons, List.length_append, List.length_nil]
    omega
  rw [readPattern, hfuel, htext, run_readBranches_succ]
  rfl

theorem readPattern_wrapped_of_ok {text : String} {inner : Expr} {last : Scan}
    (hinside : readInside text.toList = .ok (inner, last.followedBy [')', '$']))
    (hend : last.rest = []) :
    readPattern (wrapped text).toList =
      .ok (inner.whole, ⟨[], {}, last.groupCount, last.groupNames⟩) := by
  obtain ⟨rest, flags, groupCount, groupNames⟩ := last
  obtain rfl : rest = [] := hend
  rw [readPattern_wrapped, run_afterMove_nested hinside,
    run_readBranches_succ]
  rfl

theorem readInside_of_read_wrapped {text : String} {reading : Reading}
    (hread : read (wrapped text) = .ok reading) :
    ∃ inner last, readInside text.toList = .ok (inner, last) := by
  obtain ⟨expr, scan, hok, -⟩ := read_eq_ok.mp hread
  rw [readPattern_wrapped] at hok
  obtain ⟨inner, last, hok, -⟩ := run_bind_eq_ok_iff.mp hok
  exact ⟨inner, last, hok⟩

/-- What is read of a wrapped pattern that does not close the parenthesis it is written
in: the pattern between the ends of a text, if it stands on its own and no comment hides
what is behind it. -/
theorem read_wrapped_eq_ok {text : String} {reading : Reading}
    (hopened : read text ≠ .error .unopenedGroup) :
    read (wrapped text) = .ok reading ↔
      read (text ++ ")") = .error .unopenedGroup ∧
        ∃ inner, read text = .ok inner ∧ ⟨inner.expr.whole, inner.groupNames⟩ = reading := by
  rw [read_eq_error, String.toList_append]
  rcases inside text.toList with
    ⟨halone, hend, hbehind, hinside⟩ | ⟨halone, hbehind, hinside⟩ | ⟨halone, hinside⟩
  case kept inner final =>
    rw [read_eq, readPattern_wrapped_of_ok hinside hend, read_eq, halone]
    simp [Except.map, hbehind]
  case swallowed =>
    refine ⟨fun hread => ?_, fun hboth => absurd hboth.1 hbehind⟩
    obtain ⟨inner, last, hok⟩ := readInside_of_read_wrapped hread
    cases hinside.symm.trans hok
  case failed error =>
    constructor
    · intro hread
      obtain ⟨inner, last, hok⟩ := readInside_of_read_wrapped hread
      obtain rfl := hinside inner last hok
      exact absurd (read_eq_error.mpr halone) hopened
    · rintro ⟨-, inner, hread, -⟩
      rw [read_eq_error.mpr halone] at hread
      cases hread

end Reading

end EdgeGateway.Regex
