import EdgeGateway.Regex.Matcher

/-!
# What an expression spans

An expression spans a stretch of a text: it leads from one place to a later one
and captures something on the way.  This says what an expression means without a
word about how matches are looked for, and so without preferences: `Spans` holds
of every way in which a stretch can be covered.
-/

namespace EdgeGateway.Regex

/-- Captures of groups, later ones first. -/
abbrev Captures := List (Nat × List Char)

/-- What leads from a place to a place, with what it captures on the way. -/
abbrev Stretch := Place → Place → Captures → Prop

/-- A place of a text. -/
def Place.IsIn (text : List Char) (place : Place) : Prop :=
  ∃ before, text = before ++ place.rest ∧ place.position = before.length ∧
    place.previous = before.getLast?

namespace Place.IsIn

variable {text : List Char} {place other : Place}

theorem start (text : List Char) : (Place.start text).IsIn text := ⟨[], rfl, rfl, rfl⟩

/-- Places of one text are told apart by their positions. -/
theorem eq_of_position (hplace : place.IsIn text) (hother : other.IsIn text)
    (hposition : place.position = other.position) : place = other := by
  obtain ⟨before, htext, hlength, hprevious⟩ := hplace
  obtain ⟨before', htext', hlength', hprevious'⟩ := hother
  obtain ⟨rfl, hrest⟩ := List.append_inj (htext.symm.trans htext') (by omega)
  cases place
  cases other
  simp_all

theorem position_add_length (hplace : place.IsIn text) :
    place.position + place.rest.length = text.length := by
  obtain ⟨before, htext, hlength, -⟩ := hplace
  rw [htext, List.length_append, hlength]

theorem next {char : Char} (hplace : place.IsIn text)
    (hnext : place.next? = some (char, other)) :
    other.IsIn text ∧ other.position = place.position + 1 ∧
      place.rest = char :: other.rest := by
  obtain ⟨before, htext, hlength, -⟩ := hplace
  unfold Place.next? at hnext
  split at hnext
  next => simp at hnext
  next head rest hrest =>
    obtain ⟨rfl, rfl⟩ : head = char ∧ _ = other := by simpa using hnext
    exact ⟨⟨before ++ [head], by simp [htext, hrest], by simp [hlength], by simp⟩, rfl,
      hrest⟩

end Place.IsIn

/-- The same thing a number of times, one after the other. -/
inductive Times (once : Stretch) : Nat → Stretch
  | zero (place : Place) : Times once 0 place place []
  | succ {count : Nat} {first second final : Place} {captured others : Captures}
      (hone : once first second captured)
      (hmore : Times once count second final others) :
      Times once (count + 1) first final (others ++ captured)

/-- A number of times within bounds; the lower one counts if they contradict. -/
def Within (least : Nat) (most : Option Nat) (once : Stretch) : Stretch :=
  fun first final captured => ∃ count, least ≤ count ∧
    (∀ bound, most = some bound → count ≤ max least bound) ∧
      Times once count first final captured

/-- The ways in which an expression covers a stretch of a text. -/
def Expr.Spans : Expr → Stretch
  | empty, first, final, captured => final = first ∧ captured = []
  | oneOf members, first, final, captured =>
      captured = [] ∧ ∃ char, first.next? = some (char, final) ∧
        members.containsChar char = true
  | assertion condition unicode, first, final, captured =>
      final = first ∧ captured = [] ∧ condition.holds unicode first = true
  | seq one other, first, final, captured =>
      ∃ middle before after, one.Spans first middle before ∧
        other.Spans middle final after ∧ captured = after ++ before
  | alt one other, first, final, captured =>
      one.Spans first final captured ∨ other.Spans first final captured
  | iterate inner least most _, first, final, captured =>
      Within least most inner.Spans first final captured
  | group index inner, first, final, captured =>
      ∃ inside, inner.Spans first final inside ∧
        captured = index.toList.map (·, between first final) ++ inside

/-- What leads forward within a text. -/
def Forward (text : List Char) (stretch : Stretch) : Prop :=
  ∀ {first final captured}, stretch first final captured → first.IsIn text →
    final.IsIn text ∧ first.position ≤ final.position

section Forward

variable {text : List Char} {once : Stretch}

theorem Forward.times (honce : Forward text once) (count : Nat) :
    Forward text (Times once count) := by
  intro first final captured htimes hfirst
  induction htimes with
  | zero => exact ⟨hfirst, Nat.le_refl _⟩
  | succ hone _ ih =>
      obtain ⟨hsecond, hle⟩ := honce hone hfirst
      obtain ⟨hfinal, hmore⟩ := ih hsecond
      exact ⟨hfinal, Nat.le_trans hle hmore⟩

theorem Forward.within (honce : Forward text once) (least : Nat) (most : Option Nat) :
    Forward text (Within least most once) := by
  rintro first final captured ⟨count, -, -, htimes⟩
  exact honce.times count htimes

theorem Expr.forward (text : List Char) (expr : Expr) : Forward text expr.Spans := by
  induction expr with
  | empty =>
      rintro first _ _ ⟨rfl, -⟩ hfirst
      exact ⟨hfirst, Nat.le_refl _⟩
  | oneOf members =>
      rintro first final _ ⟨-, char, hnext, -⟩ hfirst
      obtain ⟨hfinal, hposition, -⟩ := hfirst.next hnext
      exact ⟨hfinal, by omega⟩
  | assertion condition unicode =>
      rintro first _ _ ⟨rfl, -⟩ hfirst
      exact ⟨hfirst, Nat.le_refl _⟩
  | seq one other ihOne ihOther =>
      rintro first final _ ⟨middle, before, after, hone, hother, -⟩ hfirst
      obtain ⟨hmiddle, hle⟩ := ihOne hone hfirst
      obtain ⟨hfinal, hmore⟩ := ihOther hother hmiddle
      exact ⟨hfinal, Nat.le_trans hle hmore⟩
  | alt one other ihOne ihOther =>
      rintro first final _ (hone | hother) hfirst
      · exact ihOne hone hfirst
      · exact ihOther hother hfirst
  | iterate inner least most greedy ih => exact ih.within least most
  | group index inner ih =>
      rintro first final _ ⟨inside, hinner, -⟩ hfirst
      exact ih hinner hfirst

end Forward

section Times

variable {once : Stretch}

theorem times_add {one other : Nat} {first middle final : Place}
    {before after : Captures} (hone : Times once one first middle before)
    (hother : Times once other middle final after) :
    Times once (one + other) first final (after ++ before) := by
  induction hone with
  | zero => simpa using hother
  | @succ count first second middle captured others hstep _ ih =>
      rw [Nat.add_right_comm, ← List.append_assoc]
      exact .succ hstep (ih hother)

theorem times_split {one other : Nat} {first final : Place} {captured : Captures}
    (htimes : Times once (one + other) first final captured) :
    ∃ middle before after, Times once one first middle before ∧
      Times once other middle final after ∧ captured = after ++ before := by
  induction one generalizing first captured with
  | zero => exact ⟨first, [], captured, .zero first, by simpa using htimes, by simp⟩
  | succ one ih =>
      rw [Nat.add_right_comm] at htimes
      cases htimes with
      | succ hstep hmore =>
          obtain ⟨middle, before, after, hone, hother, rfl⟩ := ih hmore
          exact ⟨middle, _, after, .succ hstep hone, hother, List.append_assoc _ _ _⟩

end Times

end EdgeGateway.Regex
