import EdgeGateway.Proofs.Regex.Repetition

/-!
# Matches and meaning

A match is found exactly if the expression spans some stretch of the text, and
what is found is such a stretch with what it captures.
-/

namespace EdgeGateway.Regex

section Follows

variable (text : List Char)

theorem Expr.follows_oneOf (members : Unicode.CodeRanges) :
    Follows text (oneOf members).Spans (advance (oneOf members)) := by
  refine ⟨?_, ?_⟩
  · intro states final hstates hfinal
    obtain ⟨state, hstate, htaken⟩ := List.mem_filterMap.mp hfinal
    obtain ⟨⟨char, place⟩, hnext, hkept⟩ := Option.bind_eq_some_iff.mp htaken
    obtain ⟨hmember, rfl⟩ : members.containsChar char = true ∧ _ = final := by
      simpa using hkept
    exact ⟨state, hstate, [], ⟨rfl, char, hnext, hmember⟩, rfl⟩
  · rintro states state final _ hstates hstate ⟨-, char, hnext, hmember⟩
    refine ⟨{ state with place := final }, List.mem_filterMap.mpr ⟨state, hstate, ?_⟩, rfl⟩
    simp [hnext, hmember]

theorem Expr.follows_alt {one other : Expr}
    (hone : Follows text one.Spans (advance one))
    (hother : Follows text other.Spans (advance other)) :
    Follows text (alt one other).Spans (advance (alt one other)) := by
  refine .ofEach (Expr.forward text (alt one other)) ?_ ?_
  · intro state final hstate hfinal
    rcases List.mem_append.mp hfinal with hfirst | hsecond
    · obtain ⟨⟨captured, hspans, hcaptures⟩, -⟩ :=
        hone.of_mem_step (one.forward text) hstate hfirst
      exact ⟨captured, Or.inl hspans, hcaptures⟩
    · obtain ⟨⟨captured, hspans, hcaptures⟩, -⟩ :=
        hother.of_mem_step (other.forward text) hstate hsecond
      exact ⟨captured, Or.inr hspans, hcaptures⟩
  · rintro state final captured hstate (hspans | hspans)
    · obtain ⟨reached, hreached, rfl⟩ := hone.exists_mem_step hstate hspans
      exact ⟨reached, List.mem_append_left _ hreached, rfl⟩
    · obtain ⟨reached, hreached, rfl⟩ := hother.exists_mem_step hstate hspans
      exact ⟨reached, List.mem_append_right _ hreached, rfl⟩

theorem Expr.follows_group (index : Option Nat) {inner : Expr}
    (hinner : Follows text inner.Spans (advance inner)) :
    Follows text (group index inner).Spans (advance (group index inner)) := by
  refine .ofEach (Expr.forward text (group index inner)) ?_ ?_
  · intro state final hstate hfinal
    obtain ⟨reached, hreached, rfl⟩ := List.mem_map.mp hfinal
    obtain ⟨⟨inside, hspans, hcaptures⟩, -⟩ :=
      hinner.of_mem_step (inner.forward text) hstate hreached
    exact ⟨_, ⟨inside, hspans, rfl⟩, by simp [hcaptures]⟩
  · rintro state final _ hstate ⟨inside, hspans, rfl⟩
    obtain ⟨reached, hreached, rfl⟩ := hinner.exists_mem_step hstate hspans
    exact ⟨_, List.mem_map.mpr ⟨reached, hreached, rfl⟩, rfl⟩

/-- Carrying states through an expression follows what the expression spans. -/
theorem Expr.follows (expr : Expr) : Follows text expr.Spans (advance expr) := by
  induction expr with
  | empty =>
      refine ⟨fun _ hfinal => ⟨_, hfinal, [], ⟨rfl, rfl⟩, rfl⟩, ?_⟩
      rintro states state _ _ hstates hstate ⟨rfl, -⟩
      exact ⟨state, hstate, rfl⟩
  | oneOf members => exact follows_oneOf text members
  | assertion condition unicode =>
      refine ⟨?_, ?_⟩
      · intro states final hstates hfinal
        obtain ⟨hstate, hholds⟩ := List.mem_filter.mp hfinal
        exact ⟨final, hstate, [], ⟨rfl, rfl, hholds⟩, rfl⟩
      · rintro states state _ _ hstates hstate ⟨rfl, -, hholds⟩
        exact ⟨state, List.mem_filter.mpr ⟨hstate, hholds⟩, rfl⟩
  | seq one other ihOne ihOther => exact ihOne.andThen (one.forward text) ihOther
  | alt one other ihOne ihOther => exact follows_alt text ihOne ihOther
  | iterate inner least most greedy ih =>
      exact ih.turns (inner.forward text) least most greedy
  | group index inner ih => exact follows_group text index ih

end Follows

/-- A match is a stretch that the expression spans. -/
structure Match.Covers (expr : Expr) (text : List Char) (found : Match)
    (first final : Place) : Prop where
  place : first.IsIn text
  spans : expr.Spans first final found.captures
  matched : found.matched = between first final

/-- The state in which a match begins. -/
def startState (skipped rest : List Char) : State :=
  ⟨⟨skipped.length, skipped.head?, rest⟩, []⟩

theorem isIn_startState (skipped rest : List Char) :
    (startState skipped rest).place.IsIn (skipped.reverse ++ rest) :=
  ⟨skipped.reverse, rfl, by simp [startState], by simp [startState]⟩

theorem matchAt?_eq_some {expr : Expr} {skipped rest : List Char} {found : Match}
    (hfound : matchAt? expr skipped.length skipped rest = some found) :
    ∃ first final, found.Covers expr (skipped.reverse ++ rest) first final := by
  obtain ⟨final, hhead, rfl⟩ := Option.map_eq_some_iff.mp hfound
  have hin := isIn_startState skipped rest
  obtain ⟨⟨captured, hspans, hcaptures⟩, -⟩ :=
    (expr.follows _).of_mem_step (expr.forward _) hin (List.mem_of_mem_head? hhead)
  refine ⟨_, final.place, hin, ?_, rfl⟩
  simpa [hcaptures, startState] using hspans

theorem matchAt?_eq_none {expr : Expr} {skipped rest : List Char}
    (hnone : matchAt? expr skipped.length skipped rest = none) {first final : Place}
    {captured : Captures} (hfirst : first.IsIn (skipped.reverse ++ rest))
    (hposition : first.position = skipped.length) :
    ¬ expr.Spans first final captured := by
  intro hspans
  have hin := isIn_startState skipped rest
  obtain rfl : first = (startState skipped rest).place := hfirst.eq_of_position hin hposition
  obtain ⟨reached, hreached, -⟩ := (expr.follows _).exists_mem_step hin hspans
  have hempty := List.head?_eq_none_iff.mp (Option.map_eq_none_iff.mp hnone)
  exact List.not_mem_nil (hempty ▸ hreached)

theorem searchFrom_eq_some {expr : Expr} (skipped : List Char) {rest : List Char}
    {found : Match} (hfound : searchFrom expr skipped.length skipped rest = some found) :
    ∃ first final, found.Covers expr (skipped.reverse ++ rest) first final := by
  induction rest generalizing skipped with
  | nil => exact matchAt?_eq_some hfound
  | cons char rest ih =>
      unfold searchFrom at hfound
      split at hfound
      next matched hmatched =>
        obtain rfl := Option.some.inj hfound
        exact matchAt?_eq_some hmatched
      next => simpa using ih (char :: skipped) hfound

/-- A search that ends without a match has tried all places. -/
theorem searchFrom_eq_none {expr : Expr} (skipped : List Char) {rest : List Char}
    (hnone : searchFrom expr skipped.length skipped rest = none) {first final : Place}
    {captured : Captures} (hfirst : first.IsIn (skipped.reverse ++ rest))
    (hposition : skipped.length ≤ first.position) :
    ¬ expr.Spans first final captured := by
  induction rest generalizing skipped with
  | nil =>
      have hlength := hfirst.position_add_length
      simp only [List.append_nil, List.length_reverse] at hlength
      exact matchAt?_eq_none hnone hfirst (by omega)
  | cons char rest ih =>
      unfold searchFrom at hnone
      split at hnone
      next => simp at hnone
      next hmatch =>
        rcases Nat.eq_or_lt_of_le hposition with hhere | hlater
        · exact matchAt?_eq_none hmatch hfirst hhere.symm
        · exact ih (char :: skipped) hnone (by simpa using hfirst) hlater

namespace Pattern

variable {pattern : Pattern} {text : String}

theorem search?_eq_some {found : Match} (hfound : pattern.search? text = some found) :
    ∃ first final, found.Covers pattern.expr text.toList first final :=
  searchFrom_eq_some [] hfound

theorem isMatch_iff : pattern.isMatch text = true ↔
    ∃ first final captured, first.IsIn text.toList ∧
      pattern.expr.Spans first final captured := by
  rw [isMatch, Option.isSome_iff_exists]
  constructor
  · rintro ⟨found, hfound⟩
    obtain ⟨first, final, hcovers⟩ := search?_eq_some hfound
    exact ⟨first, final, found.captures, hcovers.place, hcovers.spans⟩
  · rintro ⟨first, final, captured, hfirst, hspans⟩
    cases hsearch : pattern.search? text with
    | some found => exact ⟨found, rfl⟩
    | none =>
        exact absurd hspans (searchFrom_eq_none [] hsearch hfirst (Nat.zero_le _))

end Pattern

end EdgeGateway.Regex
