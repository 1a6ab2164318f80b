import EdgeGateway.Text.Numeral
import Mathlib.Data.List.Induction
import Mathlib.Data.Nat.Digits.Defs

/-!
# Numerals are read back

A number that is within a limit is read from its decimal numeral, so different
numbers have different numerals.  Digits are a decimal numeral if they do not begin
with a zero, or are no more than it.
-/

namespace EdgeGateway.Text

theorem isAsciiDigit_eq (char : Char) : isAsciiDigit char = char.isDigit := rfl

theorem isAsciiDigit_of_mem_decimalDigits {value : Nat} {char : Char}
    (hchar : char ∈ decimalDigits value) : isAsciiDigit char = true := by
  rw [isAsciiDigit_eq]
  exact Nat.isDigit_of_mem_toDigits (by decide) (by decide) hchar

theorem digitsValue_decimalDigits (value : Nat) :
    digitsValue (decimalDigits value) = value := by
  have hback : Nat.ofDigitChars 10 (Nat.toDigits 10 value) 0 = value :=
    Nat.ofDigitChars_ten_toDigits
  rw [Nat.ofDigitChars_eq_foldl] at hback
  simpa only [digitsValue, decimalDigits, digitValue, Nat.mul_comm] using hback

/-- More digits never make a value smaller, so no step leaves the limit before the
last one does. -/
theorem le_foldl_digits (value : Nat) (digits : List Char) :
    value ≤ digits.foldl (fun value char => value * 10 + digitValue char) value := by
  induction digits generalizing value with
  | nil => exact Nat.le_refl _
  | cons char digits ih => exact Nat.le_trans (by omega) (ih (value * 10 + digitValue char))

theorem readDigits_of_le {limit value : Nat} {digits : List Char}
    (hdigits : ∀ char ∈ digits, isAsciiDigit char = true)
    (hlimit : digits.foldl (fun value char => value * 10 + digitValue char) value ≤ limit) :
    readDigits limit value digits =
      .ok (digits.foldl (fun value char => value * 10 + digitValue char) value) := by
  induction digits generalizing value with
  | nil => rfl
  | cons char digits ih =>
      obtain ⟨hchar, hrest⟩ := List.forall_mem_cons.mp hdigits
      rw [List.foldl_cons] at hlimit ⊢
      have hnext := Nat.le_trans (le_foldl_digits _ digits) hlimit
      rw [readDigits, if_neg (by simp [hchar]), if_neg (by omega), if_neg (by omega)]
      exact ih hrest hlimit

theorem readNatural_decimal {limit value : Nat} (hvalue : value ≤ limit) :
    readNatural limit (decimal value) = .ok value := by
  have hread : readDigits limit 0 (decimalDigits value) = .ok value := by
    have hsame := digitsValue_decimalDigits value
    rw [digitsValue] at hsame
    rw [readDigits_of_le (fun char hchar => isAsciiDigit_of_mem_decimalDigits hchar)
      (by rwa [hsame]), hsame]
  rw [readNatural, decimal, String.toList_ofList]
  cases hdigits : decimalDigits value with
  | nil => exact absurd hdigits Nat.toDigits_ne_nil
  | cons char digits =>
      have hchar : isAsciiDigit char = true :=
        isAsciiDigit_of_mem_decimalDigits (by rw [hdigits]; exact List.mem_cons_self)
      have hplus : char ≠ '+' := by
        rintro rfl
        exact absurd hchar (by decide)
      have hminus : char ≠ '-' := by
        rintro rfl
        exact absurd hchar (by decide)
      rw [hdigits] at hread
      split <;> simp_all

theorem readDigits_le {limit value result : Nat} {digits : List Char}
    (hread : readDigits limit value digits = .ok result) (hvalue : value ≤ limit) :
    result ≤ limit := by
  induction digits generalizing value with
  | nil =>
      obtain rfl := Except.ok.inj hread
      exact hvalue
  | cons char digits ih =>
      unfold readDigits at hread
      split at hread
      next => simp at hread
      next =>
        split at hread
        next => simp at hread
        next =>
          split at hread
          next => simp at hread
          next hfits => exact ih hread (Nat.not_lt.mp hfits)

theorem readNatural_le {limit result : Nat} {text : String}
    (hread : readNatural limit text = .ok result) : result ≤ limit := by
  unfold readNatural at hread
  split at hread
  case h_1 | h_2 | h_3 => simp at hread
  case h_4 | h_5 => exact readDigits_le hread (Nat.zero_le _)

theorem decimal_injective : Function.Injective decimal := by
  intro left right hsame
  have hdigits : decimalDigits left = decimalDigits right :=
    String.ofList_injective hsame
  rw [← digitsValue_decimalDigits left, hdigits, digitsValue_decimalDigits]

theorem digitValue_lt_of_isAsciiDigit {char : Char} (hdigit : isAsciiDigit char = true) :
    digitValue char < 10 ∧ Nat.digitChar (digitValue char) = char := by
  obtain ⟨hlow, hhigh⟩ : '0' ≤ char ∧ char ≤ '9' := by simpa [isAsciiDigit] using hdigit
  have hcodes : 48 ≤ char.toNat ∧ char.toNat ≤ 57 := ⟨hlow, hhigh⟩
  have hvalue : digitValue char = char.toNat - 48 := rfl
  have hlt : digitValue char < 10 := by omega
  refine ⟨hlt, Char.toNat_inj.mp ?_⟩
  rw [Nat.toNat_digitChar_of_lt_ten hlt]
  omega

theorem digitValue_pos {char : Char} (hdigit : isAsciiDigit char = true)
    (hother : char ≠ '0') : 0 < digitValue char := by
  obtain ⟨-, hchar⟩ := digitValue_lt_of_isAsciiDigit hdigit
  refine Nat.pos_of_ne_zero fun hzero => hother ?_
  rw [← hchar, hzero]
  rfl

theorem le_digitsValue_cons (first : Char) (rest : List Char) :
    digitValue first ≤ digitsValue (first :: rest) := by
  rw [digitsValue, List.foldl_cons, Nat.zero_mul, Nat.zero_add]
  exact le_foldl_digits _ rest

theorem digitsValue_concat (digits : List Char) (char : Char) :
    digitsValue (digits ++ [char]) = 10 * digitsValue digits + digitValue char := by
  rw [digitsValue, List.foldl_append, digitsValue, Nat.mul_comm 10]
  rfl

/-- Digits that do not begin with a zero are the numeral of their value. -/
theorem decimalDigits_digitsValue {digits : List Char} (hsome : digits ≠ [])
    (hdigits : ∀ char ∈ digits, isAsciiDigit char = true)
    (hzero : digits.head? = some '0' → digits.length = 1) :
    decimalDigits (digitsValue digits) = digits := by
  induction digits using List.reverseRecOn with
  | nil => exact absurd rfl hsome
  | append_singleton front last ih =>
      obtain ⟨hlt, hlast⟩ := digitValue_lt_of_isAsciiDigit (hdigits last (by simp))
      have hunit : Nat.toDigits 10 (digitValue last) = [last] := by
        rw [Nat.toDigits_of_lt_base hlt, hlast]
      rw [digitsValue_concat, decimalDigits]
      cases front with
      | nil => simpa [digitsValue] using hunit
      | cons first rest =>
          have hfirst : first ≠ '0' := by
            rintro rfl
            simp at hzero
          have hpositive : 0 < digitsValue (first :: rest) :=
            Nat.lt_of_lt_of_le (digitValue_pos (hdigits first (by simp)) hfirst)
              (le_digitsValue_cons first rest)
          have hfront := ih (List.cons_ne_nil _ _)
            (fun char hchar => hdigits char (List.mem_append_left _ hchar))
            (fun hhead => absurd (Option.some.inj hhead) hfirst)
          rw [decimalDigits] at hfront
          rw [← Nat.toDigits_append_toDigits (by decide) hpositive hlt, hfront, hunit]

end EdgeGateway.Text
