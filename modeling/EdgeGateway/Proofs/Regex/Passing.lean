import EdgeGateway.Proofs.Regex.Matching

/-!
# Text passed on the way

What simple expressions span depends on nothing but the text that is passed: a
set passes one of its characters, a repeated set any number of them, and
literal text itself.
-/

namespace EdgeGateway.Regex

open Unicode (CodeRanges)

/-- The way from a place to a later one, with the text between them. -/
inductive Passes : Place → List Char → Place → Prop
  | nil (place : Place) : Passes place [] place
  | cons {first second final : Place} {char : Char} {piece : List Char}
      (hnext : first.next? = some (char, second)) (hmore : Passes second piece final) :
      Passes first (char :: piece) final

theorem Place.next?_eq_some {place next : Place} {char : Char} :
    place.next? = some (char, next) ↔
      place.rest = char :: next.rest ∧ next.position = place.position + 1 ∧
        next.previous = some char := by
  unfold Place.next?
  obtain ⟨position, previous, rest⟩ := next
  cases hrest : place.rest with
  | nil => simp
  | cons head tail => grind

section Passes

variable {first middle final : Place} {piece other : List Char}

theorem Passes.rest_eq (hpasses : Passes first piece final) :
    first.rest = piece ++ final.rest := by
  induction hpasses with
  | nil => rfl
  | cons hnext _ ih => rw [(Place.next?_eq_some.mp hnext).1, ih, List.cons_append]

theorem Passes.position_eq (hpasses : Passes first piece final) :
    final.position = first.position + piece.length := by
  induction hpasses with
  | nil => simp
  | cons hnext _ ih =>
      have hstep := (Place.next?_eq_some.mp hnext).2.1
      rw [List.length_cons]
      omega

theorem Passes.between_eq (hpasses : Passes first piece final) :
    between first final = piece := by
  rw [between, hpasses.rest_eq, hpasses.position_eq, Nat.add_sub_cancel_left,
    List.take_left]

@[simp]
theorem passes_nil : Passes first [] final ↔ final = first := by
  constructor
  · rintro ⟨⟩
    rfl
  · rintro rfl
    exact .nil _

theorem passes_append :
    Passes first (piece ++ other) final ↔
      ∃ middle, Passes first piece middle ∧ Passes middle other final := by
  induction piece generalizing first with
  | nil => simp
  | cons char piece ih =>
      constructor
      · rintro (_ | ⟨hnext, hmore⟩)
        obtain ⟨middle, hpiece, hother⟩ := ih.mp hmore
        exact ⟨middle, .cons hnext hpiece, hother⟩
      · rintro ⟨middle, _ | ⟨hnext, hpiece⟩, hother⟩
        exact .cons hnext (ih.mpr ⟨middle, hpiece, hother⟩)

/-- Whatever text is ahead can be passed. -/
theorem exists_passes (htext : first.rest = piece ++ other) :
    ∃ final, Passes first piece final ∧ final.rest = other := by
  induction piece generalizing first with
  | nil => exact ⟨first, .nil first, htext⟩
  | cons char piece ih =>
      obtain ⟨final, hpasses, hrest⟩ : ∃ final,
          Passes ⟨first.position + 1, some char, piece ++ other⟩ piece final ∧
            final.rest = other := ih rfl
      exact ⟨final, .cons (Place.next?_eq_some.mpr ⟨by simpa using htext, rfl, rfl⟩) hpasses, hrest⟩

end Passes

/-! ## Sets of characters -/

theorem toNat_le_lastCode (char : Char) : char.toNat ≤ CodeRanges.lastCode := by
  have hvalid := char.valid
  simp only [Char.toNat, CodeRanges.lastCode]
  rcases hvalid with hlow | ⟨-, hhigh⟩ <;> omega

@[simp]
theorem containsChar_singleton {char other : Char} :
    CodeRanges.containsChar [(char.toNat, char.toNat)] other = true ↔ other = char := by
  simp only [CodeRanges.containsChar, CodeRanges.contains, List.any_cons, List.any_nil,
    Bool.or_false, Bool.and_eq_true, decide_eq_true_eq]
  rw [← Char.toNat_inj]
  omega

theorem complement_singleton (code : Nat) :
    CodeRanges.complement [(code, code)] = CodeRanges.gaps 0 [(code, code)] := by
  simp [CodeRanges.complement, CodeRanges.normalize, CodeRanges.joinTouching]

@[simp]
theorem containsChar_complement_singleton {code : Nat} {char : Char} :
    (CodeRanges.complement [(code, code)]).containsChar char = true ↔ char.toNat ≠ code := by
  have hbound := toNat_le_lastCode char
  rw [complement_singleton]
  simp only [CodeRanges.containsChar, CodeRanges.contains, CodeRanges.gaps]
  split <;> split <;> simp <;> omega

/-! ## Expressions -/

section Expr

variable {first final : Place} {captured : Captures} {members : CodeRanges}

/-- A set is passed as one of its characters. -/
theorem spans_oneOf :
    (Expr.oneOf members).Spans first final captured ↔
      captured = [] ∧ ∃ char, members.containsChar char = true ∧
        Passes first [char] final := by
  constructor
  · rintro ⟨hcaptured, char, hnext, hmember⟩
    exact ⟨hcaptured, char, hmember, .cons hnext (.nil final)⟩
  · rintro ⟨hcaptured, char, hmember, _ | ⟨hnext, hmore⟩⟩
    obtain rfl := passes_nil.mp hmore
    exact ⟨hcaptured, char, hnext, hmember⟩

theorem times_oneOf {count : Nat} :
    Times (Expr.oneOf members).Spans count first final captured ↔
      captured = [] ∧ ∃ piece, piece.length = count ∧
        (∀ char ∈ piece, members.containsChar char = true) ∧ Passes first piece final := by
  constructor
  · intro htimes
    induction htimes with
    | zero place => exact ⟨rfl, [], rfl, by simp, .nil place⟩
    | succ hone _ ih =>
        obtain ⟨rfl, char, hmember, _ | ⟨hnext, hmore⟩⟩ := spans_oneOf.mp hone
        obtain rfl := passes_nil.mp hmore
        obtain ⟨rfl, piece, hlength, hall, hpasses⟩ := ih
        exact ⟨rfl, char :: piece, by rw [List.length_cons, hlength],
          List.forall_mem_cons.mpr ⟨hmember, hall⟩, .cons hnext hpasses⟩
  · rintro ⟨rfl, piece, rfl, hall, hpasses⟩
    induction hpasses with
    | nil place => exact .zero place
    | cons hnext _ ih =>
        obtain ⟨hmember, hmore⟩ := List.forall_mem_cons.mp hall
        exact .succ ⟨rfl, _, hnext, hmember⟩ (ih hmore)

/-- A set that is repeated without end is passed as a piece of its characters. -/
theorem spans_iterate_oneOf {least : Nat} {greedy : Bool} :
    (Expr.iterate (.oneOf members) least none greedy).Spans first final captured ↔
      captured = [] ∧ ∃ piece, least ≤ piece.length ∧
        (∀ char ∈ piece, members.containsChar char = true) ∧ Passes first piece final := by
  constructor
  · rintro ⟨_, hleast, -, htimes⟩
    obtain ⟨hcaptured, piece, rfl, hall, hpasses⟩ := times_oneOf.mp htimes
    exact ⟨hcaptured, piece, hleast, hall, hpasses⟩
  · rintro ⟨hcaptured, piece, hleast, hall, hpasses⟩
    exact ⟨piece.length, hleast, by simp, times_oneOf.mpr ⟨hcaptured, piece, rfl, hall, hpasses⟩⟩

theorem spans_char {char : Char} :
    (Expr.char char).Spans first final captured ↔
      captured = [] ∧ Passes first [char] final := by
  rw [Expr.char, spans_oneOf]
  simp

/-- Literal text is passed as it is. -/
theorem spans_literal {text : List Char} :
    (Expr.literal text).Spans first final captured ↔
      captured = [] ∧ Passes first text final := by
  induction text generalizing first captured with
  | nil => rw [Expr.literal, passes_nil, and_comm]; rfl
  | cons char text ih =>
      cases text with
      | nil => exact spans_char
      | cons next text =>
          rw [← List.singleton_append, passes_append]
          constructor
          · rintro ⟨middle, before, after, hone, hmore, rfl⟩
            obtain ⟨rfl, hchar⟩ := spans_char.mp hone
            obtain ⟨rfl, hpasses⟩ := ih.mp hmore
            exact ⟨rfl, middle, hchar, hpasses⟩
          · rintro ⟨rfl, middle, hchar, hpasses⟩
            exact ⟨middle, [], [], spans_char.mpr ⟨rfl, hchar⟩, ih.mpr ⟨rfl, hpasses⟩, rfl⟩

/-- What may be left out is passed once or not at all. -/
theorem spans_optional {inner : Expr} :
    inner.optional.Spans first final captured ↔
      final = first ∧ captured = [] ∨ inner.Spans first final captured := by
  constructor
  · rintro ⟨count, -, hmost, htimes⟩
    have hcount : count ≤ 1 := by simpa using hmost 1 rfl
    rcases htimes with _ | ⟨hone, _ | _⟩
    · exact Or.inl ⟨rfl, rfl⟩
    · exact Or.inr (by simpa using hone)
    · omega
  · rintro (⟨rfl, rfl⟩ | hspans)
    · exact ⟨0, by simp, by simp, .zero _⟩
    · exact ⟨1, by simp, by simp, by simpa using Times.succ hspans (.zero final)⟩

theorem spans_endsText :
    Expr.endsText.Spans first final captured ↔
      final = first ∧ captured = [] ∧ final.rest = [] := by
  have hends : Assertion.textEnd.holds true first = true ↔ first.rest = [] := by
    simp [Assertion.holds]
  show (final = first ∧ captured = [] ∧ _) ↔ _
  rw [hends]
  grind

theorem spans_startsText :
    Expr.startsText.Spans first final captured ↔
      final = first ∧ captured = [] ∧ first.previous = none := by
  show (final = first ∧ captured = [] ∧ _) ↔ _
  simp [Assertion.holds]

/-- A sequence that goes on spans its first part and then the others. -/
theorem spans_sequence_cons {head : Expr} {rest : List Expr} (hrest : rest ≠ []) :
    (Expr.sequence (head :: rest)).Spans first final captured ↔
      ∃ middle before after, head.Spans first middle before ∧
        (Expr.sequence rest).Spans middle final after ∧ captured = after ++ before := by
  cases rest with
  | nil => exact absurd rfl hrest
  | cons next rest => rfl

end Expr

end EdgeGateway.Regex
