import EdgeGateway.Text.Ascii
import EdgeGateway.Proofs.Text.Pieces

/-!
# Letters and their case

A change of case moves an ASCII letter by 32 places and leaves all other
characters alone, so it neither makes nor removes blanks and separators.  Texts
that are the same in lower case are the same in upper case.
-/

namespace EdgeGateway.Text

theorem toNat_ofNat_of_ascii {code : Nat} (hcode : code < 128) :
    (Char.ofNat code).toNat = code := by
  have hvalid : code.isValidChar := Or.inl (by omega)
  rw [Char.ofNat, dif_pos hvalid]
  rfl

theorem toNat_lowerAsciiChar (char : Char) :
    (lowerAsciiChar char).toNat =
      if 65 ≤ char.toNat ∧ char.toNat ≤ 90 then char.toNat + 32 else char.toNat := by
  by_cases hupper : 'A' ≤ char ∧ char ≤ 'Z'
  · have hcode : 65 ≤ char.toNat ∧ char.toNat ≤ 90 := hupper
    rw [lowerAsciiChar, if_pos hupper, if_pos hcode, toNat_ofNat_of_ascii (by omega)]
  · have hcode : ¬ (65 ≤ char.toNat ∧ char.toNat ≤ 90) := hupper
    rw [lowerAsciiChar, if_neg hupper, if_neg hcode]

theorem toNat_upperAsciiChar (char : Char) :
    (upperAsciiChar char).toNat =
      if 97 ≤ char.toNat ∧ char.toNat ≤ 122 then char.toNat - 32 else char.toNat := by
  by_cases hlower : 'a' ≤ char ∧ char ≤ 'z'
  · have hcode : 97 ≤ char.toNat ∧ char.toNat ≤ 122 := hlower
    rw [upperAsciiChar, if_pos hlower, if_pos hcode, toNat_ofNat_of_ascii (by omega)]
  · have hcode : ¬ (97 ≤ char.toNat ∧ char.toNat ≤ 122) := hlower
    rw [upperAsciiChar, if_neg hlower, if_neg hcode]

theorem lowerAsciiChar_idem (char : Char) :
    lowerAsciiChar (lowerAsciiChar char) = lowerAsciiChar char := by
  apply Char.toNat_inj.mp
  rw [toNat_lowerAsciiChar, toNat_lowerAsciiChar]
  split_ifs <;> omega

@[simp]
theorem lowerAscii_lowerAscii (text : String) :
    lowerAscii (lowerAscii text) = lowerAscii text := by
  have hidem : lowerAsciiChar ∘ lowerAsciiChar = lowerAsciiChar :=
    funext lowerAsciiChar_idem
  simp [lowerAscii, hidem]

theorem equalIgnoringCase_iff {left right : String} :
    equalIgnoringCase left right = true ↔ lowerAscii left = lowerAscii right := by
  simp [equalIgnoringCase]

theorem upperAsciiChar_lowerAsciiChar (char : Char) :
    upperAsciiChar (lowerAsciiChar char) = upperAsciiChar char := by
  apply Char.toNat_inj.mp
  rw [toNat_upperAsciiChar, toNat_upperAsciiChar, toNat_lowerAsciiChar]
  split_ifs <;> omega

theorem upperAscii_lowerAscii (text : String) :
    upperAscii (lowerAscii text) = upperAscii text := by
  have hchars : upperAsciiChar ∘ lowerAsciiChar = upperAsciiChar :=
    funext upperAsciiChar_lowerAsciiChar
  simp [upperAscii, lowerAscii, hchars]

theorem upperAscii_congr {left right : String}
    (hsame : lowerAscii left = lowerAscii right) : upperAscii left = upperAscii right := by
  rw [← upperAscii_lowerAscii left, hsame, upperAscii_lowerAscii]

/-- What is no letter keeps its place and gets no company. -/
theorem lowerAsciiChar_eq_iff {char mark : Char} (hmark : mark.toNat < 65) :
    lowerAsciiChar char = mark ↔ char = mark := by
  rw [← Char.toNat_inj, ← Char.toNat_inj, toNat_lowerAsciiChar]
  split <;> omega

theorem lowerAscii_eq_iff {text mark : String} (hmark : ∀ char ∈ mark.toList, char.toNat < 65) :
    lowerAscii text = mark ↔ text = mark := by
  rw [← String.toList_inj, ← String.toList_inj, lowerAscii, String.toList_ofList]
  generalize text.toList = chars at *
  generalize mark.toList = marks at *
  induction chars generalizing marks with
  | nil => simp
  | cons char chars ih =>
      cases marks with
      | nil => simp
      | cons first marks =>
          obtain ⟨hfirst, hrest⟩ := List.forall_mem_cons.mp hmark
          rw [List.map_cons, List.cons.injEq, List.cons.injEq, lowerAsciiChar_eq_iff hfirst,
            ih marks hrest]

theorem isBlank_lowerAsciiChar (char : Char) :
    isBlank (lowerAsciiChar char) = isBlank char := by
  simp only [isBlank, toNat_lowerAsciiChar]
  split
  next hupper =>
    have hnot : ∀ code, ¬ (65 ≤ code ∧ code ≤ 122) →
        char.toNat ≠ code ∧ char.toNat + 32 ≠ code := by omega
    grind
  next => rfl

/-! ## Ends that are dropped -/

theorem dropEndWhile_map {drop : Char → Bool} {change : Char → Char}
    (hchange : ∀ char, drop (change char) = drop char) (chars : List Char) :
    dropEndWhile drop (chars.map change) = (dropEndWhile drop chars).map change := by
  have hdrop : drop ∘ change = drop := funext hchange
  rw [dropEndWhile, dropEndWhile, ← List.map_reverse, List.dropWhile_map, hdrop,
    List.map_reverse]

theorem trimChars_map_lowerAsciiChar (chars : List Char) :
    trimChars (chars.map lowerAsciiChar) = (trimChars chars).map lowerAsciiChar := by
  have hblank : isBlank ∘ lowerAsciiChar = isBlank := funext isBlank_lowerAsciiChar
  rw [trimChars, List.dropWhile_map, hblank, dropEndWhile_map isBlank_lowerAsciiChar,
    trimChars]

theorem trim_lowerAscii (text : String) :
    trim (lowerAscii text) = lowerAscii (trim text) := by
  simp only [trim, lowerAscii, String.toList_ofList, trimChars_map_lowerAsciiChar]

/-- Trimming keeps texts alike that differ in the case of letters. -/
theorem lowerAscii_trim_congr {left right : String}
    (hsame : lowerAscii left = lowerAscii right) :
    lowerAscii (trim left) = lowerAscii (trim right) := by
  rw [← trim_lowerAscii, hsame, trim_lowerAscii]

end EdgeGateway.Text
