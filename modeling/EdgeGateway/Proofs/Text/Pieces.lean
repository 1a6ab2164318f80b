import EdgeGateway.Text.Blank
import EdgeGateway.Text.Pieces
import Mathlib.Data.List.DropRight

/-!
# Cutting undoes gluing

Pieces that do not hold the separator are found again in the glued text.  So
they can be told from the text, as long as the empty list of pieces is kept apart
from the list with one empty piece.
-/

namespace EdgeGateway.Text

theorem splitAtEvery_ne_nil (separator : Char) (text : List Char) :
    splitAtEvery separator text ≠ [] := by
  cases text with
  | nil => simp [splitAtEvery]
  | cons char text =>
      unfold splitAtEvery
      split
      · simp
      · split <;> simp

theorem not_mem_of_mem_splitAtEvery {separator : Char} (text : List Char) :
    ∀ piece ∈ splitAtEvery separator text, separator ∉ piece := by
  induction text with
  | nil => simp [splitAtEvery]
  | cons char rest ih =>
      rw [splitAtEvery]
      split
      next => simpa using ih
      next hother =>
        split
        next => simp [Ne.symm hother]
        next first pieces hpieces =>
          rw [hpieces] at ih
          intro piece hpiece
          rcases List.mem_cons.mp hpiece with rfl | hpiece
          · have hfirst := ih first List.mem_cons_self
            simp [Ne.symm hother, hfirst]
          · exact ih piece (List.mem_cons_of_mem _ hpiece)

theorem splitAtEvery_of_not_mem {separator : Char} {piece : List Char}
    (hpiece : separator ∉ piece) : splitAtEvery separator piece = [piece] := by
  induction piece with
  | nil => rfl
  | cons char rest ih =>
      obtain ⟨hchar, hrest⟩ : separator ≠ char ∧ separator ∉ rest := by
        simpa using hpiece
      rw [splitAtEvery, if_neg (Ne.symm hchar), ih hrest]

theorem splitAtEvery_append_cons {separator : Char} {piece : List Char}
    (hpiece : separator ∉ piece) (text : List Char) :
    splitAtEvery separator (piece ++ separator :: text) =
      piece :: splitAtEvery separator text := by
  induction piece with
  | nil => simp [splitAtEvery]
  | cons char rest ih =>
      obtain ⟨hchar, hrest⟩ : separator ≠ char ∧ separator ∉ rest := by
        simpa using hpiece
      rw [List.cons_append, splitAtEvery, if_neg (Ne.symm hchar), ih hrest]

theorem splitAtEvery_glue {separator : Char} {pieces : List (List Char)}
    (hsome : pieces ≠ []) (hpieces : ∀ piece ∈ pieces, separator ∉ piece) :
    splitAtEvery separator (glue [separator] pieces) = pieces := by
  induction pieces with
  | nil => exact absurd rfl hsome
  | cons piece pieces ih =>
      have hpiece := hpieces piece List.mem_cons_self
      have hrest := fun other hother =>
        hpieces other (List.mem_cons_of_mem piece hother)
      cases pieces with
      | nil => exact splitAtEvery_of_not_mem hpiece
      | cons next pieces =>
          rw [glue, List.append_assoc, List.singleton_append,
            splitAtEvery_append_cons hpiece, ih (by simp) hrest]
          simp

theorem glue_cons {separator piece : List Char} {pieces : List (List Char)}
    (hsome : pieces ≠ []) :
    glue separator (piece :: pieces) = piece ++ separator ++ glue separator pieces := by
  cases pieces with
  | nil => exact absurd rfl hsome
  | cons next pieces => rfl

theorem glue_append_cons (separator front piece : List Char) (pieces : List (List Char)) :
    glue separator ((front ++ piece) :: pieces) =
      front ++ glue separator (piece :: pieces) := by
  cases pieces with
  | nil => rfl
  | cons next pieces => simp only [glue, List.append_assoc]

theorem glue_splitAtEvery (separator : Char) (text : List Char) :
    glue [separator] (splitAtEvery separator text) = text := by
  induction text with
  | nil => rfl
  | cons char rest ih =>
      have hsome := splitAtEvery_ne_nil separator rest
      rw [splitAtEvery]
      split
      next hsame => rw [glue_cons hsome, ih, hsame, List.nil_append, List.singleton_append]
      next =>
        split
        next hnone => exact absurd hnone hsome
        next piece pieces hpieces =>
          rw [hpieces] at ih
          cases pieces with
          | nil => rw [glue, ← ih, glue]
          | cons next pieces =>
              have hmore : next :: pieces ≠ [] := List.cons_ne_nil _ _
              rw [← ih, glue_cons hmore, glue_cons hmore, List.cons_append, List.cons_append]

theorem mem_of_mem_splitAtEvery {separator : Char} {text piece : List Char}
    (hpiece : piece ∈ splitAtEvery separator text) : ∀ char ∈ piece, char ∈ text := by
  induction text generalizing piece with
  | nil => simp_all [splitAtEvery]
  | cons first rest ih =>
      intro char hchar
      rw [splitAtEvery] at hpiece
      split at hpiece
      next =>
        rcases List.mem_cons.mp hpiece with rfl | hpiece
        · simp at hchar
        · exact List.mem_cons_of_mem _ (ih hpiece char hchar)
      next =>
        split at hpiece
        next => simp_all
        next front pieces hpieces =>
          rw [hpieces] at ih
          rcases List.mem_cons.mp hpiece with rfl | hpiece
          · rcases List.mem_cons.mp hchar with rfl | hchar
            · exact List.mem_cons_self
            · exact List.mem_cons_of_mem _ (ih List.mem_cons_self char hchar)
          · exact List.mem_cons_of_mem _ (ih (List.mem_cons_of_mem _ hpiece) char hchar)

/-- Text is cut at a separator wherever it stands. -/
theorem splitAtEvery_append (separator : Char) (front back : List Char) :
    splitAtEvery separator (front ++ separator :: back) =
      splitAtEvery separator front ++ splitAtEvery separator back := by
  induction front with
  | nil => simp [splitAtEvery]
  | cons char front ih =>
      rw [List.cons_append, splitAtEvery, splitAtEvery, ih]
      split
      next => rfl
      next =>
        cases hfront : splitAtEvery separator front with
        | nil => exact absurd hfront (splitAtEvery_ne_nil separator front)
        | cons piece pieces => rfl

/-- A change of characters that keeps the separator apart changes piece by piece. -/
theorem splitAtEvery_map {separator : Char} {change : Char → Char}
    (hchange : ∀ char, change char = separator ↔ char = separator) (text : List Char) :
    splitAtEvery separator (text.map change) =
      (splitAtEvery separator text).map (List.map change) := by
  induction text with
  | nil => rfl
  | cons char text ih =>
      rw [List.map_cons, splitAtEvery, splitAtEvery, ih]
      by_cases hsame : char = separator
      · rw [if_pos hsame, if_pos ((hchange char).mpr hsame)]
        rfl
      · rw [if_neg hsame, if_neg fun h => hsame ((hchange char).mp h)]
        cases splitAtEvery separator text <;> rfl

theorem glue_eq_nil_iff {separator : Char} {pieces : List (List Char)} :
    glue [separator] pieces = [] ↔ pieces = [] ∨ pieces = [[]] := by
  cases pieces with
  | nil => simp [glue]
  | cons piece pieces =>
      cases pieces with
      | nil => simp [glue]
      | cons next pieces => simp [glue]

theorem mem_glue {separator char : Char} {pieces : List (List Char)}
    (hchar : char ∈ glue [separator] pieces) :
    char = separator ∨ ∃ piece ∈ pieces, char ∈ piece := by
  induction pieces with
  | nil => simp [glue] at hchar
  | cons piece pieces ih =>
      by_cases hsome : pieces = []
      · subst hsome
        exact Or.inr ⟨piece, List.mem_singleton.mpr rfl, hchar⟩
      · rw [glue_cons hsome, List.mem_append, List.mem_append,
          List.mem_singleton] at hchar
        rcases hchar with (hpiece | hsame) | hrest
        · exact Or.inr ⟨piece, List.mem_cons_self, hpiece⟩
        · exact Or.inl hsame
        · rcases ih hrest with hsame | ⟨other, hother, hmem⟩
          · exact Or.inl hsame
          · exact Or.inr ⟨other, List.mem_cons_of_mem _ hother, hmem⟩

theorem glue_injective {separator : Char} {left right : List (List Char)}
    (hleft : ∀ piece ∈ left, piece ≠ [] ∧ separator ∉ piece)
    (hright : ∀ piece ∈ right, piece ≠ [] ∧ separator ∉ piece)
    (hglue : glue [separator] left = glue [separator] right) : left = right := by
  have hempty : ∀ pieces : List (List Char),
      (∀ piece ∈ pieces, piece ≠ [] ∧ separator ∉ piece) →
        glue [separator] pieces = [] → pieces = [] := by
    intro pieces hpieces hnil
    rcases glue_eq_nil_iff.mp hnil with h | rfl
    · exact h
    · exact absurd rfl (hpieces [] List.mem_cons_self).1
  by_cases hnil : left = []
  · subst hnil
    exact (hempty right hright hglue.symm).symm
  · have hnil' : right ≠ [] := by
      rintro rfl
      exact hnil (hempty left hleft hglue)
    rw [← splitAtEvery_glue hnil fun piece h => (hleft piece h).2, hglue,
      splitAtEvery_glue hnil' fun piece h => (hright piece h).2]

theorem join_injective {separator : Char} {left right : List String}
    (hleft : ∀ piece ∈ left, piece ≠ "" ∧ separator ∉ piece.toList)
    (hright : ∀ piece ∈ right, piece ≠ "" ∧ separator ∉ piece.toList)
    (hjoin : join (String.singleton separator) left =
      join (String.singleton separator) right) : left = right := by
  have hchars : ∀ pieces : List String,
      (∀ piece ∈ pieces, piece ≠ "" ∧ separator ∉ piece.toList) →
        ∀ piece ∈ pieces.map String.toList, piece ≠ [] ∧ separator ∉ piece := by
    intro pieces hpieces chars hmem
    obtain ⟨piece, hpiece, rfl⟩ := List.mem_map.mp hmem
    simpa using hpieces piece hpiece
  have hglue : glue [separator] (left.map String.toList) =
      glue [separator] (right.map String.toList) := by
    simpa [join] using congrArg String.toList hjoin
  have hsame := glue_injective (hchars left hleft) (hchars right hright) hglue
  exact List.map_inj_right (fun _ _ => String.toList_inj.mp) |>.mp hsame

theorem split_join {separator : Char} {pieces : List String} (hsome : pieces ≠ [])
    (hpieces : ∀ piece ∈ pieces, separator ∉ piece.toList) :
    split separator (join (String.singleton separator) pieces) = pieces := by
  have hchars : ∀ chars ∈ pieces.map String.toList, separator ∉ chars := by
    intro chars hmem
    obtain ⟨piece, hpiece, rfl⟩ := List.mem_map.mp hmem
    exact hpieces piece hpiece
  have htext : (join (String.singleton separator) pieces).toList =
      glue [separator] (pieces.map String.toList) := by
    rw [join, String.toList_ofList, String.toList_singleton]
  rw [split, htext, splitAtEvery_glue (by simpa using hsome) hchars, List.map_map]
  exact (List.map_congr_left fun piece _ => String.ofList_toList).trans (List.map_id pieces)

theorem join_split (separator : Char) (text : String) :
    join (String.singleton separator) (split separator text) = text := by
  have hpieces : (split separator text).map String.toList =
      splitAtEvery separator text.toList := by
    rw [split, List.map_map]
    exact (List.map_congr_left fun piece _ => String.toList_ofList).trans (List.map_id _)
  rw [join, hpieces, String.toList_singleton, glue_splitAtEvery, String.ofList_toList]

theorem not_mem_of_mem_split {separator : Char} (text : String) :
    ∀ part ∈ split separator text, separator ∉ part.toList := by
  intro part hpart
  obtain ⟨piece, hpiece, rfl⟩ := List.mem_map.mp hpart
  rw [String.toList_ofList]
  exact not_mem_of_mem_splitAtEvery text.toList piece hpiece

/-! ## Trimming -/

theorem dropEndWhile_sublist (drop : Char → Bool) (chars : List Char) :
    (dropEndWhile drop chars).Sublist chars := by
  have hreverse := (List.dropWhile_sublist (p := drop) (l := chars.reverse)).reverse
  rwa [List.reverse_reverse] at hreverse

theorem exists_dropEndWhile_append (drop : Char → Bool) (chars : List Char) :
    ∃ dropped, chars = dropEndWhile drop chars ++ dropped ∧
      ∀ char ∈ dropped, drop char = true := by
  refine ⟨(chars.reverse.takeWhile drop).reverse, ?_, ?_⟩
  · rw [dropEndWhile, ← List.reverse_append, List.takeWhile_append_dropWhile,
      List.reverse_reverse]
  · exact fun char hchar =>
      List.all_eq_true.mp List.all_takeWhile char (List.mem_reverse.mp hchar)

theorem trimChars_sublist (chars : List Char) : (trimChars chars).Sublist chars :=
  (dropEndWhile_sublist isBlank _).trans (List.dropWhile_sublist _)

theorem trimChars_eq_rdropWhile (chars : List Char) :
    trimChars chars = (chars.dropWhile isBlank).rdropWhile isBlank := rfl

theorem trimChars_eq_nil_iff {chars : List Char} :
    trimChars chars = [] ↔ chars.all isBlank = true := by
  rw [trimChars_eq_rdropWhile, List.rdropWhile_eq_nil_iff, ← List.dropWhile_eq_nil_iff,
    List.dropWhile_idempotent, List.dropWhile_eq_nil_iff, List.all_eq_true]

/-- What was trimmed begins with no blank. -/
theorem dropWhile_trimChars (chars : List Char) :
    (trimChars chars).dropWhile isBlank = trimChars chars := by
  have hhead := List.head?_dropWhile_not isBlank chars
  obtain ⟨dropped, hkept⟩ : trimChars chars <+: chars.dropWhile isBlank :=
    List.rdropWhile_prefix isBlank _
  cases htrimmed : trimChars chars with
  | nil => rfl
  | cons first rest =>
      rw [← hkept, htrimmed] at hhead
      have hfirst : isBlank first = false := by simpa using hhead
      rw [List.dropWhile_cons_of_neg (by simp [hfirst])]

theorem trimChars_trimChars (chars : List Char) :
    trimChars (trimChars chars) = trimChars chars := by
  rw [trimChars_eq_rdropWhile, dropWhile_trimChars, trimChars_eq_rdropWhile,
    List.rdropWhile_idempotent]

theorem trim_trim (text : String) : trim (trim text) = trim text := by
  simp only [trim, String.toList_ofList, trimChars_trimChars]

theorem trim_eq_empty_iff {text : String} : trim text = "" ↔ isBlankText text = true := by
  rw [trim, isBlankText, ← trimChars_eq_nil_iff, ← String.toList_inj, String.toList_ofList]
  rfl

/-! ## The first separator -/

theorem splitAtFirst?_append {separator : Char} {before after : List Char}
    (hbefore : separator ∉ before) :
    splitAtFirst? separator (before ++ separator :: after) = some (before, after) := by
  induction before with
  | nil => simp [splitAtFirst?]
  | cons char before ih =>
      obtain ⟨hchar, hrest⟩ : separator ≠ char ∧ separator ∉ before := by simpa using hbefore
      simp [splitAtFirst?, Ne.symm hchar, ih hrest]

theorem splitAtFirst?_eq_some_iff {separator : Char} {text before after : List Char} :
    splitAtFirst? separator text = some (before, after) ↔
      separator ∉ before ∧ text = before ++ separator :: after := by
  constructor
  · intro hsplit
    induction text generalizing before with
    | nil => simp [splitAtFirst?] at hsplit
    | cons char text ih =>
        unfold splitAtFirst? at hsplit
        split at hsplit
        next hsame =>
          obtain ⟨rfl, rfl⟩ : [] = before ∧ text = after := by simpa using hsplit
          exact ⟨List.not_mem_nil, by rw [hsame, List.nil_append]⟩
        next hother =>
          obtain ⟨⟨earlier, later⟩, hrest, hpair⟩ := Option.map_eq_some_iff.mp hsplit
          obtain ⟨rfl, rfl⟩ : char :: earlier = before ∧ later = after := by simpa using hpair
          obtain ⟨hnot, htext⟩ := ih hrest
          refine ⟨?_, by rw [htext, List.cons_append]⟩
          rintro (_ | ⟨_, hmem⟩)
          · exact hother rfl
          · exact hnot hmem
  · rintro ⟨hnot, rfl⟩
    exact splitAtFirst?_append hnot

theorem splitFirst?_eq_some_iff {separator : Char} {text before after : String} :
    splitFirst? separator text = some (before, after) ↔
      separator ∉ before.toList ∧ text = before ++ String.singleton separator ++ after := by
  have htext : text = before ++ String.singleton separator ++ after ↔
      text.toList = before.toList ++ separator :: after.toList := by
    rw [← String.toList_inj]
    simp
  rw [htext, ← splitAtFirst?_eq_some_iff, splitFirst?, Option.map_eq_some_iff]
  constructor
  · rintro ⟨⟨earlier, later⟩, hsplit, hpair⟩
    obtain ⟨rfl, rfl⟩ := Prod.mk.inj hpair
    rwa [String.toList_ofList, String.toList_ofList]
  · exact fun hsplit => ⟨_, hsplit, by simp⟩

/-- Text without the separator changes nothing behind another text. -/
theorem splitAtFirst?_append_tail {separator : Char} {tail : List Char}
    (htail : separator ∉ tail) (text : List Char) :
    splitAtFirst? separator (text ++ tail) =
      (splitAtFirst? separator text).map fun (before, after) => (before, after ++ tail) := by
  induction text with
  | nil =>
      cases hsplit : splitAtFirst? separator tail with
      | none => simpa [splitAtFirst?] using hsplit
      | some found => exact absurd (by simp [(splitAtFirst?_eq_some_iff.mp hsplit).2]) htail
  | cons char text ih =>
      rw [List.cons_append, splitAtFirst?, splitAtFirst?, ih]
      split
      next => rfl
      next => rw [Option.map_map, Option.map_map]; rfl

/-! ## Prefixes -/

theorem eq_append_of_dropPiece? {piece text rest : List Char}
    (hdrop : dropPiece? piece text = some rest) : text = piece ++ rest := by
  induction piece generalizing text with
  | nil => simpa [dropPiece?] using hdrop
  | cons expected piece ih =>
      cases text with
      | nil => simp [dropPiece?] at hdrop
      | cons char text =>
          unfold dropPiece? at hdrop
          split at hdrop
          next hsame => rw [hsame, ih hdrop, List.cons_append]
          next => simp at hdrop

theorem dropPiece?_append (piece text : List Char) :
    dropPiece? piece (piece ++ text) = some text := by
  induction piece with
  | nil => rfl
  | cons char piece ih => rw [List.cons_append, dropPiece?, if_pos rfl, ih]

/-! ## Replacing -/

section

variable {piece : List Char} (replacement : List Char)

theorem replacePieceFrom_append (skipped text : List Char) :
    replacePieceFrom piece replacement skipped.length (skipped ++ text) =
      replacePieceFrom piece replacement 0 text := by
  induction skipped with
  | nil => rfl
  | cons char skipped ih => rw [List.length_cons, List.cons_append, replacePieceFrom, ih]

theorem replacePiece_append (hsome : piece ≠ []) (text : List Char) :
    replacePiece piece replacement (piece ++ text) =
      replacement ++ replacePiece piece replacement text := by
  obtain ⟨char, tail, rfl⟩ := List.exists_cons_of_ne_nil hsome
  have hdrop := dropPiece?_append (char :: tail) text
  rw [List.cons_append] at hdrop
  rw [replacePiece, replacePiece, if_neg hsome, if_neg hsome, List.cons_append,
    replacePieceFrom, hdrop]
  exact congrArg (replacement ++ ·) (replacePieceFrom_append replacement tail text)

theorem replacePiece_cons {char : Char} {text : List Char}
    (hother : ∀ rest, char :: text ≠ piece ++ rest) :
    replacePiece piece replacement (char :: text) =
      char :: replacePiece piece replacement text := by
  have hsome : piece ≠ [] := by
    rintro rfl
    exact hother _ rfl
  rw [replacePiece, replacePiece, if_neg hsome, if_neg hsome, replacePieceFrom]
  cases hdrop : dropPiece? piece (char :: text) with
  | none => rfl
  | some rest => exact absurd (eq_append_of_dropPiece? hdrop) (hother rest)

/-- Text without the first character of the piece stays as it is. -/
theorem replacePiece_append_of_not_mem {first : Char} {tail : List Char}
    {kept : List Char} (hkept : first ∉ kept) (text : List Char) :
    replacePiece (first :: tail) replacement (kept ++ text) =
      kept ++ replacePiece (first :: tail) replacement text := by
  induction kept with
  | nil => rfl
  | cons char kept ih =>
      obtain ⟨hchar, hmore⟩ : first ≠ char ∧ first ∉ kept := by simpa using hkept
      rw [List.cons_append, replacePiece_cons, ih hmore, List.cons_append]
      intro rest hsame
      exact hchar (List.cons.inj hsame).1.symm

end

end EdgeGateway.Text
