import EdgeGateway.Proofs.Text.Pieces
import Mathlib.Data.List.Count
import Mathlib.Logic.Function.Basic
import Mathlib.Tactic.LinearCombination
import Mathlib.Tactic.Zify

/-!
# Slots of a text

A slot is a name in braces.  Slots do not overlap, and a slot is one wherever it
stands, so that a text has one reading as slots and other characters.  To replace a
slot is to fill it in this reading.  Text that is put into slots never takes a slot
away, but it can add some: by itself, or together with what stands around it.
-/

namespace EdgeGateway.Text

inductive Segment where
  | plain (char : Char)
  | slot (name : List Char)
  deriving DecidableEq

namespace Segment

def spelling : Segment → List Char
  | plain char => [char]
  | slot name => '{' :: (name ++ ['}'])

end Segment

open Segment (plain slot)

def spell (template : List Segment) : List Char := template.flatMap Segment.spelling

/-- A name can stand in a slot. -/
def IsName (name : List Char) : Prop := '{' ∉ name ∧ '}' ∉ name

instance : DecidablePred IsName := fun _ => inferInstanceAs (Decidable (_ ∧ _))

/-- The name in front of a closing brace, with what is behind the brace. -/
def closing? : List Segment → Option (List Char × List Segment)
  | plain char :: segments =>
      if char = '}' then some ([], segments)
      else if char = '{' then none
      else (closing? segments).map fun (name, rest) => (char :: name, rest)
  | _ => none

/-- Reads a text from its end, so that a slot begins at the last brace that can
open it. -/
def segments : List Char → List Segment
  | [] => []
  | char :: text =>
      if char = '{' then
        match closing? (segments text) with
        | some (name, rest) => slot name :: rest
        | none => plain char :: segments text
      else plain char :: segments text

/-- How often a slot stands in a text. -/
def occurrences (name text : List Char) : Nat := (segments text).count (slot name)

/-- Puts values into the slots that have one. -/
def fill (values : List Char → Option (List Char)) (template : List Segment) : List Char :=
  template.flatMap fun
    | plain char => [char]
    | slot name => (values name).getD (slot name).spelling

/-! ## The reading of a text -/

theorem isName_cons {char : Char} {name : List Char} :
    IsName (char :: name) ↔ (char ≠ '{' ∧ char ≠ '}') ∧ IsName name := by
  simp only [IsName, List.mem_cons, not_or, ne_eq, eq_comm]
  tauto

theorem closing?_eq_some_iff {segments rest : List Segment} {name : List Char} :
    closing? segments = some (name, rest) ↔
      IsName name ∧ segments = name.map plain ++ plain '}' :: rest := by
  induction segments generalizing name with
  | nil => simp [closing?]
  | cons segment segments ih =>
      cases segment with
      | slot other => cases name <;> simp [closing?]
      | plain char =>
          rw [closing?]
          cases name with
          | nil =>
              by_cases hclose : char = '}'
              · simp [hclose, IsName, eq_comm]
              · by_cases hopen : char = '{' <;> simp [hclose, hopen]
          | cons head name =>
              by_cases hclose : char = '}'
              · simp [hclose, isName_cons]
                grind
              by_cases hopen : char = '{'
              · simp [hopen, isName_cons]
                grind
              · simp [hclose, hopen, isName_cons, ih]
                grind

/-- At the head of a text stands a plain character, or a brace that opens a slot. -/
theorem segments_cons (char : Char) (text : List Char) :
    segments (char :: text) = plain char :: segments text ∨
      ∃ name rest, char = '{' ∧ IsName name ∧
        segments text = name.map plain ++ plain '}' :: rest ∧
        segments (char :: text) = slot name :: rest := by
  rw [segments]
  split
  next hopen =>
    split
    next name rest hclosing =>
      obtain ⟨hname, htext⟩ := closing?_eq_some_iff.mp hclosing
      exact Or.inr ⟨name, rest, hopen, hname, htext, rfl⟩
    next => exact Or.inl rfl
  next => exact Or.inl rfl

theorem segments_append_of_not_mem {piece : List Char} (hpiece : '{' ∉ piece)
    (text : List Char) : segments (piece ++ text) = piece.map plain ++ segments text := by
  induction piece with
  | nil => rfl
  | cons char piece ih =>
      obtain ⟨hchar, hmore⟩ : '{' ≠ char ∧ '{' ∉ piece := by simpa using hpiece
      rw [List.cons_append, segments, if_neg hchar.symm, ih hmore, List.map_cons,
        List.cons_append]

/-- A slot is one wherever it stands. -/
theorem segments_slot {name : List Char} (hname : IsName name) (text : List Char) :
    segments ((slot name).spelling ++ text) = slot name :: segments text := by
  have hclosing : closing? (segments (name ++ '}' :: text)) = some (name, segments text) := by
    apply closing?_eq_some_iff.mpr
    exact ⟨hname, by rw [segments_append_of_not_mem hname.1]; rfl⟩
  have hspelling : (slot name).spelling ++ text = '{' :: (name ++ '}' :: text) := by
    simp [Segment.spelling]
  rw [hspelling, segments, if_pos rfl, hclosing]

@[simp]
theorem spell_nil : spell [] = [] := rfl

@[simp]
theorem spell_cons (segment : Segment) (rest : List Segment) :
    spell (segment :: rest) = segment.spelling ++ spell rest := rfl

@[simp]
theorem spell_append (left right : List Segment) :
    spell (left ++ right) = spell left ++ spell right := List.flatMap_append

@[simp]
theorem spell_map_plain (piece : List Char) : spell (piece.map plain) = piece := by
  induction piece with
  | nil => rfl
  | cons char piece ih => exact congrArg (char :: ·) ih

theorem spell_segments (text : List Char) : spell (segments text) = text := by
  induction text with
  | nil => rfl
  | cons char text ih =>
      obtain hplain | ⟨name, rest, rfl, -, htext, hslot⟩ := segments_cons char text
      · rw [hplain, spell_cons, ih]
        rfl
      · rw [htext] at ih
        rw [hslot, ← ih]
        simp [Segment.spelling]

theorem exists_slot_of_segments_ne {char : Char} {text : List Char}
    (hslot : segments (char :: text) ≠ plain char :: segments text) :
    ∃ name after, IsName name ∧ char :: text = (slot name).spelling ++ after := by
  obtain hplain | ⟨name, rest, -, hname, -, hsegments⟩ := segments_cons char text
  · exact absurd hplain hslot
  · exists name, spell rest
    apply And.intro hname
    rw [← spell_segments (char :: text), hsegments, spell_cons]

/-- Induction along the reading of a text. -/
theorem segments_induction {motive : List Char → Prop} (nil : motive [])
    (slot : ∀ name text, IsName name → motive text →
      motive ((slot name).spelling ++ text))
    (plain : ∀ char text, segments (char :: text) = plain char :: segments text →
      motive text → motive (char :: text))
    (text : List Char) : motive text := by
  induction hlength : text.length using Nat.strong_induction_on generalizing text with
  | _ length ih =>
      cases text with
      | nil => exact nil
      | cons char text =>
          by_cases hplain : segments (char :: text) = Segment.plain char :: segments text
          · apply plain char text hplain
            exact ih text.length (by simp [← hlength]) text rfl
          · obtain ⟨name, after, hname, htext⟩ := exists_slot_of_segments_ne hplain
            rw [htext] at hlength ⊢
            apply slot name after hname
            exact ih after.length (by simp [← hlength, Segment.spelling]; omega) after rfl

theorem closing?_append_slot (name : List Char) (before after : List Segment) :
    closing? (before ++ slot name :: after) =
      (closing? before).map fun (found, rest) => (found, rest ++ slot name :: after) := by
  induction before with
  | nil => rfl
  | cons segment before ih =>
      cases segment with
      | slot other => rfl
      | plain char =>
          rw [List.cons_append, closing?, closing?]
          split
          next => rfl
          next =>
            split
            next => rfl
            next => rw [ih, Option.map_map, Option.map_map]; rfl

/-- What stands on one side of a slot is read without the other side. -/
theorem segments_append_slot {name : List Char} (hname : IsName name)
    (before after : List Char) :
    segments (before ++ ((slot name).spelling ++ after)) =
      segments before ++ slot name :: segments after := by
  induction before with
  | nil => exact segments_slot hname after
  | cons char before ih =>
      rw [List.cons_append, segments, segments, ih, closing?_append_slot]
      split
      next => cases closing? (segments before) <;> rfl
      next => rfl

/-- A slot that is read stands in the text. -/
theorem infix_of_mem_segments {segment : Segment} {text : List Char}
    (hmem : segment ∈ segments text) : segment.spelling <:+: text := by
  obtain ⟨before, after, hsegments⟩ := List.append_of_mem hmem
  exists spell before, spell after
  rw [← spell_segments text, hsegments, spell_append, spell_cons, List.append_assoc]

theorem isName_of_mem_segments {name text : List Char} (hmem : slot name ∈ segments text) :
    IsName name := by
  induction text using segments_induction with
  | nil => simp [segments] at hmem
  | slot other text hother ih =>
      rw [segments_slot hother] at hmem
      obtain hhead | hmore := List.mem_cons.mp hmem
      · cases hhead
        exact hother
      · exact ih hmore
  | plain char text hplain ih =>
      rw [hplain] at hmem
      exact ih (by simpa using hmem)

/-! ## Replacing slots -/

/-- One slot has a value. -/
def only (name value : List Char) : List Char → Option (List Char) :=
  Function.update (fun _ => none) name (some value)

section

variable {values : List Char → Option (List Char)}

@[simp]
theorem fill_nil : fill values [] = [] := rfl

@[simp]
theorem fill_plain (char : Char) (rest : List Segment) :
    fill values (plain char :: rest) = char :: fill values rest := rfl

@[simp]
theorem fill_slot (name : List Char) (rest : List Segment) :
    fill values (slot name :: rest) =
      (values name).getD (slot name).spelling ++ fill values rest := rfl

@[simp]
theorem fill_append (left right : List Segment) :
    fill values (left ++ right) = fill values left ++ fill values right :=
  List.flatMap_append

@[simp]
theorem fill_map_plain (piece : List Char) : fill values (piece.map plain) = piece := by
  induction piece with
  | nil => rfl
  | cons char piece ih => exact congrArg (char :: ·) ih

end

theorem fill_eq_spell {values : List Char → Option (List Char)} {template : List Segment}
    (hnone : ∀ name, slot name ∈ template → values name = none) :
    fill values template = spell template := by
  induction template with
  | nil => rfl
  | cons segment template ih =>
      have hmore := ih fun name hname => hnone name (List.mem_cons_of_mem segment hname)
      cases segment with
      | plain char => rw [fill_plain, hmore]; rfl
      | slot name => rw [fill_slot, hnone name List.mem_cons_self, hmore]; rfl

theorem fill_none_segments (text : List Char) :
    fill (fun _ => none) (segments text) = text := by
  rw [fill_eq_spell fun _ _ => rfl, spell_segments]

/-- To replace a slot is to fill it. -/
theorem replacePiece_slot {name : List Char} (hname : IsName name)
    (value text : List Char) :
    replacePiece (slot name).spelling value text = fill (only name value) (segments text) := by
  have hsome : (slot name).spelling ≠ [] := List.cons_ne_nil _ _
  induction text using segments_induction with
  | nil => rfl
  | slot other text hother ih =>
      rw [segments_slot hother, fill_slot, ← ih]
      by_cases hsame : other = name
      · rw [hsame, replacePiece_append value hsome, only, Function.update_self]
        rfl
      · have hbehind : '{' ∉ other ++ ['}'] := by simpa using hother.1
        have hopen : ∀ rest, (slot other).spelling ++ text ≠ (slot name).spelling ++ rest := by
          intro rest hrest
          have hsegments := congrArg segments hrest
          rw [segments_slot hother, segments_slot hname] at hsegments
          exact hsame (Segment.slot.inj (List.cons.inj hsegments).1)
        have hvalue : only name value other = none := Function.update_of_ne hsame _ _
        calc
          replacePiece (slot name).spelling value ((slot other).spelling ++ text) =
              '{' :: replacePiece (slot name).spelling value (other ++ ['}'] ++ text) :=
            replacePiece_cons value hopen
          _ = '{' :: (other ++ ['}'] ++ replacePiece (slot name).spelling value text) :=
            congrArg ('{' :: ·) (replacePiece_append_of_not_mem value hbehind text)
          _ = _ := by rw [hvalue]; rfl
  | plain char text hplain ih =>
      rw [hplain, fill_plain, ← ih]
      apply replacePiece_cons
      intro rest hslot
      rw [hslot, segments_slot hname] at hplain
      cases hplain

/-! ## Slots that come with values -/

section

variable {name : List Char}

theorem count_map_plain (piece : List Char) :
    (piece.map plain).count (slot name) = 0 :=
  List.count_eq_zero.mpr (by simp)

theorem occurrences_slot (hname : IsName name) (text : List Char) :
    occurrences name ((slot name).spelling ++ text) = occurrences name text + 1 := by
  rw [occurrences, segments_slot hname, List.count_cons_self, occurrences]

variable (name) (value : List Char)

/-- One more character in front completes at most one slot, and leaves the others as
they are. -/
theorem occurrences_cons (char : Char) (text : List Char) :
    occurrences name text ≤ occurrences name (char :: text) ∧
      (occurrences name (char :: text) = occurrences name text →
        fill (only name value) (segments (char :: text)) =
          char :: fill (only name value) (segments text)) := by
  unfold occurrences
  obtain hplain | ⟨other, rest, rfl, -, htext, hslot⟩ := segments_cons char text
  · simp [hplain]
  · rw [hslot, htext, List.count_append, count_map_plain, fill_append, fill_map_plain]
    by_cases hsame : other = name
    · simp [hsame]
    · have hvalue : only name value other = none := Function.update_of_ne hsame _ _
      simp [hsame, hvalue, Segment.spelling]

theorem occurrences_append (piece text : List Char) :
    occurrences name text ≤ occurrences name (piece ++ text) ∧
      (occurrences name (piece ++ text) = occurrences name text →
        fill (only name value) (segments (piece ++ text)) =
          piece ++ fill (only name value) (segments text)) := by
  induction piece with
  | nil => simp
  | cons char piece ih =>
      obtain ⟨hmore, hkept⟩ := ih
      obtain ⟨hone, hsame⟩ := occurrences_cons name value char (piece ++ text)
      constructor
      · exact hmore.trans hone
      · intro hcount
        rw [List.cons_append] at hcount ⊢
        rw [hsame (by omega), hkept (by omega), List.cons_append]

variable {name} (values : List Char → Option (List Char))

/-- A value for one slot does not matter to the other segments. -/
theorem exists_piece_of_ne {segment : Segment} (hother : segment ≠ slot name)
    (rest : List Segment) : ∃ piece,
      fill values (segment :: rest) = piece ++ fill values rest ∧
      fill (Function.update values name (some value)) (segment :: rest) =
        piece ++ fill (Function.update values name (some value)) rest := by
  cases segment with
  | plain char => exact ⟨[char], rfl, rfl⟩
  | slot other =>
      have hname : other ≠ name := fun hsame => hother (congrArg slot hsame)
      exact ⟨_, rfl, by rw [fill_slot, Function.update_of_ne hname]⟩

variable {values}

theorem fill_slot_of_free (hfree : values name = none) (rest : List Segment) :
    fill values (slot name :: rest) = (slot name).spelling ++ fill values rest := by
  rw [fill_slot, hfree, Option.getD_none]

theorem fill_update_slot (rest : List Segment) :
    fill (Function.update values name (some value)) (slot name :: rest) =
      value ++ fill (Function.update values name (some value)) rest := by
  rw [fill_slot, Function.update_self, Option.getD_some]

/-- Filling other slots takes no slot away.  If it adds none either, then to fill one
slot after the others is to fill all at once. -/
theorem fill_fill (hname : IsName name) (hfree : values name = none)
    (template : List Segment) :
    template.count (slot name) ≤ occurrences name (fill values template) ∧
      (occurrences name (fill values template) = template.count (slot name) →
        fill (only name value) (segments (fill values template)) =
          fill (Function.update values name (some value)) template) := by
  induction template with
  | nil => simp [occurrences, segments]
  | cons segment template ih =>
      obtain ⟨hmore, hkept⟩ := ih
      by_cases hsegment : segment = slot name
      · rw [hsegment, fill_slot_of_free hfree, fill_update_slot, occurrences_slot hname,
          List.count_cons_self, segments_slot hname]
        constructor
        · omega
        · intro hcount
          rw [only, fill_update_slot, ← only, hkept (by omega)]
      · obtain ⟨piece, hpiece, hafter⟩ := exists_piece_of_ne value values hsegment template
        obtain ⟨hgrows, hsame⟩ := occurrences_append name value piece (fill values template)
        rw [List.count_cons_of_ne hsegment, hpiece, hafter]
        constructor
        · exact hmore.trans hgrows
        · intro hcount
          rw [hsame (by omega), hkept (by omega)]

/-- If every opening brace opens a slot, then values without one add no slot. -/
theorem occurrences_fill (hfree : values name = none)
    (hvalues : ∀ other value, values other = some value → '{' ∉ value)
    {template : List Segment} (hnames : ∀ other, slot other ∈ template → IsName other)
    (hopen : plain '{' ∉ template) :
    occurrences name (fill values template) = template.count (slot name) := by
  induction template with
  | nil => rfl
  | cons segment template ih =>
      obtain ⟨hsegment, hmore⟩ : plain '{' ≠ segment ∧ plain '{' ∉ template := by
        simpa using hopen
      have hrest := ih (fun other hother => hnames other (List.mem_cons_of_mem segment hother))
        hmore
      have hplain : ∀ piece : List Char, '{' ∉ piece →
          occurrences name (piece ++ fill values template) = template.count (slot name) := by
        intro piece hpiece
        rw [occurrences, segments_append_of_not_mem hpiece, List.count_append, count_map_plain,
          ← occurrences, hrest, Nat.zero_add]
      cases segment with
      | plain char =>
          rw [List.count_cons_of_ne (by simp)]
          exact hplain [char] (by simpa using hsegment)
      | slot other =>
          rw [fill_slot]
          cases hvalue : values other with
          | some value =>
              have hother : slot other ≠ slot name := by
                rintro ⟨⟩
                simp [hfree] at hvalue
              rw [List.count_cons_of_ne hother]
              exact hplain value (hvalues other value hvalue)
          | none =>
              rw [Option.getD_none, occurrences,
                segments_slot (hnames other List.mem_cons_self), List.count_cons,
                List.count_cons, ← occurrences, hrest]

/-! ## Slots that must not be added -/

/-- In how many places two texts of one length differ. -/
def differences (left right : List Char) : Nat :=
  (left.zip right).countP fun (one, other) => one ≠ other

theorem differences_append {left right : List Char} (hlength : left.length = right.length)
    (more others : List Char) :
    differences (left ++ more) (right ++ others) =
      differences left right + differences more others := by
  rw [differences, List.zip_append hlength, List.countP_append, differences, differences]

theorem differences_eq_zero_iff {left right : List Char}
    (hlength : left.length = right.length) :
    differences left right = 0 ↔ left = right := by
  induction left generalizing right with
  | nil => simp [differences, List.length_eq_zero_iff.mp hlength.symm]
  | cons one left ih =>
      obtain ⟨other, right, rfl⟩ := List.exists_cons_of_length_eq_add_one hlength.symm
      have hmore := ih (by simpa using hlength)
      by_cases hsame : one = other <;> simp_all [differences]

theorem differences_self (text : List Char) : differences text text = 0 :=
  (differences_eq_zero_iff rfl).mpr rfl

theorem length_fill_update (hfree : values name = none) (template : List Segment) :
    (fill (Function.update values name (some value)) template).length +
        template.count (slot name) * (slot name).spelling.length =
      (fill values template).length + template.count (slot name) * value.length := by
  induction template with
  | nil => simp
  | cons segment template ih =>
      by_cases hsegment : segment = slot name
      · rw [hsegment, fill_slot_of_free hfree, fill_update_slot, List.count_cons_self,
          List.length_append, List.length_append, Nat.succ_mul, Nat.succ_mul]
        omega
      · obtain ⟨piece, hpiece, hafter⟩ := exists_piece_of_ne value values hsegment template
        rw [hpiece, hafter, List.count_cons_of_ne hsegment, List.length_append,
          List.length_append]
        omega

theorem differences_fill_update (hfree : values name = none)
    (hlength : (slot name).spelling.length = value.length) (template : List Segment) :
    differences (fill values template)
        (fill (Function.update values name (some value)) template) =
      template.count (slot name) * differences (slot name).spelling value := by
  induction template with
  | nil => simp [differences]
  | cons segment template ih =>
      by_cases hsegment : segment = slot name
      · rw [hsegment, fill_slot_of_free hfree, fill_update_slot, List.count_cons_self,
          differences_append hlength, ih, Nat.succ_mul, Nat.add_comm]
      · obtain ⟨piece, hpiece, hafter⟩ := exists_piece_of_ne value values hsegment template
        rw [hpiece, hafter, List.count_cons_of_ne hsegment, differences_append rfl,
          differences_self, ih, Nat.zero_add]

variable (name) in
/-- Each slot that is filled makes a text longer or shorter by the same amount. -/
theorem length_fill_only (text : List Char) :
    (fill (only name value) (segments text)).length +
        occurrences name text * (slot name).spelling.length =
      text.length + occurrences name text * value.length := by
  have hlength : (fill (only name value) (segments text)).length +
      occurrences name text * (slot name).spelling.length =
        (fill (fun _ => none) (segments text)).length +
          occurrences name text * value.length :=
    length_fill_update value rfl (segments text)
  rwa [fill_none_segments] at hlength

/-- Each slot that is filled with a value of its length changes the same number of
characters. -/
theorem differences_fill_only (hlength : (slot name).spelling.length = value.length)
    (text : List Char) :
    differences text (fill (only name value) (segments text)) =
      occurrences name text * differences (slot name).spelling value := by
  have hdiffer : differences (fill (fun _ => none) (segments text))
      (fill (only name value) (segments text)) =
        occurrences name text * differences (slot name).spelling value :=
    differences_fill_update value rfl hlength (segments text)
  rwa [fill_none_segments] at hdiffer

/-- If filling one slot after the others is the same as filling all at once, then the
others add no slot that is changed. -/
theorem occurrences_of_fill_eq (hfree : values name = none) {template : List Segment}
    (hfill : fill (only name value) (segments (fill values template)) =
      fill (Function.update values name (some value)) template) :
    value = (slot name).spelling ∨
      occurrences name (fill values template) = template.count (slot name) := by
  by_cases hlength : (slot name).spelling.length = value.length
  · have hone := differences_fill_only value hlength (fill values template)
    rw [hfill, differences_fill_update value hfree hlength] at hone
    by_cases hsame : differences (slot name).spelling value = 0
    · exact Or.inl ((differences_eq_zero_iff hlength).mp hsame).symm
    · right
      exact (Nat.eq_of_mul_eq_mul_right (Nat.pos_of_ne_zero hsame) hone).symm
  · have hone := length_fill_only name value (fill values template)
    have hall := length_fill_update value hfree template
    rw [hfill] at hone
    zify at hone hall hlength
    have hproduct : ((occurrences name (fill values template) : ℤ) -
        template.count (slot name)) *
          (value.length - (slot name).spelling.length) = 0 := by
      linear_combination hall - hone
    obtain hcount | hsame := mul_eq_zero.mp hproduct
    · exact Or.inr (by omega)
    · exact absurd (by omega) hlength

/-- A slot with itself as value stays. -/
theorem fill_update_spelling (hfree : values name = none) (template : List Segment) :
    fill (Function.update values name (some (slot name).spelling)) template =
      fill values template := by
  induction template with
  | nil => rfl
  | cons segment template ih =>
      by_cases hsegment : segment = slot name
      · rw [hsegment, fill_update_slot, fill_slot_of_free hfree, ih]
      · obtain ⟨piece, hpiece, hafter⟩ :=
          exists_piece_of_ne (slot name).spelling values hsegment template
        rw [hpiece, hafter, ih]

/-- To fill one slot after the others is to fill all at once exactly if the slot stays
what it is, or the others add none of it. -/
theorem fill_fill_eq_iff (hname : IsName name) (hfree : values name = none)
    (template : List Segment) :
    fill (only name value) (segments (fill values template)) =
        fill (Function.update values name (some value)) template ↔
      value = (slot name).spelling ∨
        occurrences name (fill values template) = template.count (slot name) := by
  constructor
  · exact occurrences_of_fill_eq value hfree
  · rintro (rfl | hcount)
    · rw [fill_update_spelling hfree, only, fill_update_spelling rfl, fill_none_segments]
    · exact (fill_fill value hname hfree template).2 hcount

end

end EdgeGateway.Text
