import EdgeGateway.Regex.Engine
import EdgeGateway.Proofs.Regex.Wrapping

/-!
# What an engine promises

A library for regular expressions documents which texts it compiles and what a pattern
matches: it takes what its grammar can read and its limits admit, and it finds a match
exactly where the expression spans some stretch of a value.  How the limits measure a
pattern is left open.  The engine that runs keeps these promises.
-/

namespace EdgeGateway.Regex

open Unicode (NamedSets)

/-- What a library promises that reads patterns by the grammar; `admits` says which of
them are neither too deep nor too large for it. -/
structure Engine.Documented [NamedSets] [Engine] (admits : String → Bool) : Prop where
  compiles : ∀ text, (∃ pattern, Engine.compile text = .ok pattern) ↔
    (∃ reading, read text = .ok reading) ∧ admits text = true
  finds : ∀ text pattern reading, Engine.compile text = .ok pattern →
    read text = .ok reading → ∀ value, Engine.isMatch pattern value = true ↔
      ∃ first final captured, first.IsIn value.toList ∧
        reading.expr.Spans first final captured

theorem ofExpr_eq_ok {source : String} {expr : Expr} {groupNames : List (String × Nat)}
    {pattern : Pattern} :
    Pattern.ofExpr source expr groupNames = .ok pattern ↔
      expr.weight ≤ Expr.weightLimit ∧ ⟨source, expr, groupNames⟩ = pattern := by
  unfold Pattern.ofExpr
  split
  next hheavy => simp [Nat.not_le.mpr hheavy]
  next hlight => simp [Nat.not_lt.mp hlight]

section Limits

variable [NamedSets]

/-- The limits of the engine that runs. -/
def withinLimits (text : String) : Bool :=
  match read text with
  | .ok reading =>
      decide (reading.expr.nesting ≤ Expr.nestingLimit) &&
        decide (reading.expr.weight ≤ Expr.weightLimit)
  | .error _ => false

theorem compile_eq_ok {source : String} {pattern : Pattern} :
    Pattern.compile source = .ok pattern ↔
      ∃ reading, read source = .ok reading ∧ withinLimits source = true ∧
        ⟨source, reading.expr, reading.groupNames⟩ = pattern := by
  rw [Pattern.compile, withinLimits, bind_eq_ok_iff]
  refine exists_congr fun reading => and_congr_right fun hread => ?_
  rw [hread]
  by_cases hdeep : reading.expr.nesting > Expr.nestingLimit
  · simp only [if_pos hdeep, decide_eq_false (Nat.not_le.mpr hdeep), Bool.false_and,
      Bool.false_eq_true, false_and, iff_false]
    intro hok
    cases hok
  · simp [hdeep, ofExpr_eq_ok, Nat.not_lt.mp hdeep]

end Limits

/-- The engine that runs keeps what is promised. -/
theorem documented : Engine.Documented withinLimits where
  compiles text := by
    constructor
    · rintro ⟨pattern, hcompile⟩
      obtain ⟨reading, hread, hadmits, -⟩ := compile_eq_ok.mp hcompile
      exact ⟨⟨reading, hread⟩, hadmits⟩
    · rintro ⟨⟨reading, hread⟩, hadmits⟩
      exact ⟨_, compile_eq_ok.mpr ⟨reading, hread, hadmits, rfl⟩⟩
  finds text pattern reading hcompile hread value := by
    obtain ⟨found, hfound, -, rfl⟩ := compile_eq_ok.mp hcompile
    obtain rfl : found = reading := Except.ok.inj (hfound.symm.trans hread)
    exact Pattern.isMatch_iff

section Wrapped

variable [NamedSets] [Engine] {admits : String → Bool} {text : String}

/-- A pattern that does not close the parenthesis it is written in can be made to match
whole texts if it stands on its own, no comment hides what is behind it and the limits
leave room for the ends. -/
theorem Engine.Documented.compiles_wrapped (hlibrary : Documented admits)
    (hopened : read text ≠ .error .unopenedGroup) :
    (∃ pattern, Engine.compile (wrapped text) = .ok pattern) ↔
      (∃ reading, read text = .ok reading) ∧ read (text ++ ")") = .error .unopenedGroup ∧
        admits (wrapped text) = true := by
  rw [hlibrary.compiles]
  simp only [read_wrapped_eq_ok hopened]
  constructor
  · rintro ⟨⟨_, hseen, inner, hinner, -⟩, hadmits⟩
    exact ⟨⟨inner, hinner⟩, hseen, hadmits⟩
  · rintro ⟨⟨inner, hinner⟩, hseen, hadmits⟩
    exact ⟨⟨_, hseen, inner, hinner, rfl⟩, hadmits⟩

/-- A wrapped pattern matches what the pattern leads through from one end to the other. -/
theorem Engine.Documented.isMatch_wrapped (hlibrary : Documented admits)
    (hopened : read text ≠ .error .unopenedGroup) {pattern : Pattern} {reading : Reading}
    (hcompile : Engine.compile (wrapped text) = .ok pattern) (hread : read text = .ok reading)
    (value : String) :
    Engine.isMatch pattern value = true ↔ reading.expr.MatchesWhole value := by
  obtain ⟨⟨whole, hwhole⟩, -⟩ := (hlibrary.compiles _).mp ⟨pattern, hcompile⟩
  obtain ⟨-, inner, hinner, rfl⟩ := (read_wrapped_eq_ok hopened).mp hwhole
  obtain rfl : inner = reading := Except.ok.inj (hinner.symm.trans hread)
  rw [hlibrary.finds _ _ _ hcompile hwhole value]
  exact Expr.exists_spans_whole

end Wrapped

end EdgeGateway.Regex
