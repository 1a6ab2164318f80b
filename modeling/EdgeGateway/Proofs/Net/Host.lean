import EdgeGateway.Proofs.Text.Numerals
import EdgeGateway.Proofs.Text.Pieces
import EdgeGateway.Unicode.CodeRanges

/-!
# Hosts as they are written

A host is a registered name, four octets, or eight groups in brackets, of which some
may be left out.  It is written in visible ASCII characters, and it has colons if and
only if it stands in brackets.
-/

namespace EdgeGateway.Net

open Text (glue)

def isHexDigit (char : Char) : Bool := (Unicode.hexDigit? char).isSome

/-- What stands for itself in a registered name. -/
def isNameChar (char : Char) : Bool :=
  Text.isAsciiAlphanumeric char || "-._~!$&'()*+,;=".toList.contains char

/-- Characters that stand for themselves, and bytes written after a percent sign. -/
inductive IsRegisteredName : List Char → Prop
  | nil : IsRegisteredName []
  | plain {char : Char} {rest : List Char} (hchar : isNameChar char = true)
      (hrest : IsRegisteredName rest) : IsRegisteredName (char :: rest)
  | encoded {high low : Char} {rest : List Char} (hhigh : isHexDigit high = true)
      (hlow : isHexDigit low = true) (hrest : IsRegisteredName rest) :
      IsRegisteredName ('%' :: high :: low :: rest)

def IsFourOctets (text : List Char) : Prop :=
  ∃ octets : List Nat, octets.length = 4 ∧ (∀ octet ∈ octets, octet < 256) ∧
    text = glue ['.'] (octets.map fun octet => (Text.decimal octet).toList)

def IsGroup (digits : List Char) : Prop :=
  digits ≠ [] ∧ digits.length ≤ 4 ∧ ∀ char ∈ digits, isHexDigit char = true

/-- Pieces that make up a number of groups; the last two groups may be four octets. -/
inductive Fills : List (List Char) → Nat → Prop
  | nil : Fills [] 0
  | octets {text : List Char} (hoctets : IsFourOctets text) : Fills [text] 2
  | group {digits : List Char} {pieces : List (List Char)} {count : Nat}
      (hgroup : IsGroup digits) (hmore : Fills pieces count) :
      Fills (digits :: pieces) (count + 1)

/-- Eight groups with colons between them, or fewer with a gap for the others. -/
inductive IsEightGroups : List Char → Prop
  | whole {pieces : List (List Char)} (hfills : Fills pieces 8) :
      IsEightGroups (glue [':'] pieces)
  | gapped {before after : List (List Char)} {count : Nat}
      (hbefore : ∀ digits ∈ before, IsGroup digits) (hafter : Fills after count)
      (hcount : before.length + count ≤ 7) :
      IsEightGroups (glue [':'] before ++ [':', ':'] ++ glue [':'] after)

def IsBracketed (text : List Char) : Prop :=
  ∃ address, IsEightGroups address ∧ text = '[' :: address ++ [']']

def IsHost (host : String) : Prop :=
  IsRegisteredName host.toList ∨ IsFourOctets host.toList ∨ IsBracketed host.toList

/-! ## Their characters -/

def isPrinted (char : Char) : Bool := 0x20 < char.toNat && char.toNat < 0x7F

theorem isPrinted_iff {char : Char} :
    isPrinted char = true ↔ 0x20 < char.toNat ∧ char.toNat < 0x7F := by
  simp [isPrinted]

/-- What a host is written with outside brackets. -/
def isBare (char : Char) : Bool := isPrinted char && char ≠ ':'

theorem isBare_of_range {char low high : Char} (hlow : low ≤ char) (hhigh : char ≤ high)
    (hrange : (0x20 < low.toNat ∧ high.toNat < 0x3A) ∨
      (0x3A < low.toNat ∧ high.toNat < 0x7F)) : isBare char = true := by
  have hcodes : low.toNat ≤ char.toNat ∧ char.toNat ≤ high.toNat := ⟨hlow, hhigh⟩
  have hcolon : char ≠ ':' := by
    rintro rfl
    have hcode : (':' : Char).toNat = 0x3A := rfl
    omega
  simp only [isBare, isPrinted_iff, Bool.and_eq_true, decide_eq_true_eq]
  exact ⟨by omega, hcolon⟩

theorem isBare_of_isHexDigit {char : Char} (hdigit : isHexDigit char = true) :
    isBare char = true := by
  unfold isHexDigit Unicode.hexDigit? at hdigit
  split at hdigit
  next h => exact isBare_of_range h.1 h.2 (by decide)
  next =>
    split at hdigit
    next h => exact isBare_of_range h.1 h.2 (by decide)
    next =>
      split at hdigit
      next h => exact isBare_of_range h.1 h.2 (by decide)
      next => simp at hdigit

theorem isBare_of_isAsciiDigit {char : Char} (hdigit : Text.isAsciiDigit char = true) :
    isBare char = true := by
  obtain ⟨hlow, hhigh⟩ : '0' ≤ char ∧ char ≤ '9' := by simpa [Text.isAsciiDigit] using hdigit
  exact isBare_of_range hlow hhigh (by decide)

theorem isBare_of_isNameChar {char : Char} (hchar : isNameChar char = true) :
    isBare char = true := by
  simp only [isNameChar, Text.isAsciiAlphanumeric, Text.isAsciiLetter, Bool.or_eq_true,
    Bool.and_eq_true, decide_eq_true_eq, List.contains_iff_mem] at hchar
  rcases hchar with ((⟨hlow, hhigh⟩ | ⟨hlow, hhigh⟩) | hdigit) | hmark
  · exact isBare_of_range hlow hhigh (by decide)
  · exact isBare_of_range hlow hhigh (by decide)
  · exact isBare_of_isAsciiDigit hdigit
  · have hmarks : "-._~!$&'()*+,;=".toList.all isBare = true := by decide +kernel
    exact List.all_eq_true.mp hmarks char hmark

theorem isRegisteredName_of_all {text : List Char}
    (hall : ∀ char ∈ text, isNameChar char = true) : IsRegisteredName text := by
  induction text with
  | nil => exact .nil
  | cons char rest ih =>
      obtain ⟨hchar, hrest⟩ := List.forall_mem_cons.mp hall
      exact .plain hchar (ih hrest)

theorem IsRegisteredName.isBare {text : List Char} (hname : IsRegisteredName text) :
    ∀ char ∈ text, isBare char = true := by
  induction hname with
  | nil => simp
  | plain hchar _ ih => exact List.forall_mem_cons.mpr ⟨isBare_of_isNameChar hchar, ih⟩
  | encoded hhigh hlow _ ih =>
      simp only [List.forall_mem_cons]
      exact ⟨by decide, isBare_of_isHexDigit hhigh, isBare_of_isHexDigit hlow, ih⟩

theorem IsFourOctets.isBare {text : List Char} (hoctets : IsFourOctets text) :
    ∀ char ∈ text, isBare char = true := by
  obtain ⟨octets, -, -, rfl⟩ := hoctets
  intro char hchar
  rcases Text.mem_glue hchar with rfl | ⟨piece, hpiece, hmem⟩
  · decide
  · obtain ⟨octet, -, rfl⟩ := List.mem_map.mp hpiece
    rw [Text.decimal, String.toList_ofList] at hmem
    exact isBare_of_isAsciiDigit (Text.isAsciiDigit_of_mem_decimalDigits hmem)

theorem IsFourOctets.dot_mem {text : List Char} (hoctets : IsFourOctets text) :
    '.' ∈ text := by
  obtain ⟨octets, hlength, -, rfl⟩ := hoctets
  match octets, hlength with
  | first :: next :: rest, _ =>
      rw [List.map_cons, List.map_cons, Text.glue_cons (List.cons_ne_nil _ _)]
      simp

theorem IsGroup.isBare {digits : List Char} (hgroup : IsGroup digits) :
    ∀ char ∈ digits, isBare char = true :=
  fun char hchar => isBare_of_isHexDigit (hgroup.2.2 char hchar)

theorem Fills.isBare {pieces : List (List Char)} {count : Nat} (hfills : Fills pieces count) :
    ∀ piece ∈ pieces, ∀ char ∈ piece, isBare char = true := by
  induction hfills with
  | nil => simp
  | octets hoctets => simpa using hoctets.isBare
  | group hgroup _ ih => exact List.forall_mem_cons.mpr ⟨hgroup.isBare, ih⟩

/-- Two groups at most are written as one piece. -/
theorem Fills.le_length {pieces : List (List Char)} {count : Nat}
    (hfills : Fills pieces count) : count ≤ pieces.length + 1 := by
  induction hfills with
  | nil => exact Nat.zero_le _
  | octets => exact Nat.le_refl _
  | group _ _ ih => exact Nat.succ_le_succ ih

theorem isPrinted_of_mem_glue {pieces : List (List Char)}
    (hpieces : ∀ piece ∈ pieces, ∀ char ∈ piece, isBare char = true) :
    ∀ char ∈ glue [':'] pieces, isPrinted char = true := by
  intro char hchar
  rcases Text.mem_glue hchar with rfl | ⟨piece, hpiece, hmem⟩
  · decide
  · exact (Bool.and_eq_true_iff.mp (hpieces piece hpiece char hmem)).1

theorem IsEightGroups.isPrinted {address : List Char} (hgroups : IsEightGroups address) :
    ∀ char ∈ address, isPrinted char = true := by
  cases hgroups with
  | whole hfills => exact isPrinted_of_mem_glue hfills.isBare
  | gapped hbefore hafter =>
      simp only [List.forall_mem_append, List.forall_mem_cons]
      exact ⟨⟨isPrinted_of_mem_glue fun digits hdigits => (hbefore digits hdigits).isBare,
        by decide, by decide, by simp⟩, isPrinted_of_mem_glue hafter.isBare⟩

theorem IsEightGroups.colon_mem {address : List Char} (hgroups : IsEightGroups address) :
    ':' ∈ address := by
  cases hgroups with
  | gapped => simp
  | @whole pieces hfills =>
      have hlength := hfills.le_length
      match pieces with
      | [] | [_] => simp at hlength
      | first :: next :: rest =>
          rw [Text.glue_cons (List.cons_ne_nil _ _)]
          simp

theorem IsHost.isPrinted {host : String} (hhost : IsHost host) :
    ∀ char ∈ host.toList, isPrinted char = true := by
  have hbare : ∀ char, isBare char = true → Net.isPrinted char = true := fun char hchar =>
    (Bool.and_eq_true_iff.mp hchar).1
  rcases hhost with hname | hoctets | ⟨address, hgroups, htext⟩
  · exact fun char hchar => hbare char (hname.isBare char hchar)
  · exact fun char hchar => hbare char (hoctets.isBare char hchar)
  · rw [htext]
    simp only [List.cons_append, List.forall_mem_cons, List.forall_mem_append]
    exact ⟨by decide, hgroups.isPrinted, by decide, by simp⟩

/-- Only a host in brackets has colons. -/
theorem IsHost.colon_mem_iff {host : String} (hhost : IsHost host) :
    ':' ∈ host.toList ↔ IsBracketed host.toList := by
  have hbare : ¬ isBare ':' = true := by decide
  constructor
  · intro hcolon
    rcases hhost with hname | hoctets | hbracketed
    · exact absurd (hname.isBare ':' hcolon) hbare
    · exact absurd (hoctets.isBare ':' hcolon) hbare
    · exact hbracketed
  · rintro ⟨address, hgroups, htext⟩
    rw [htext]
    simp [hgroups.colon_mem]

end EdgeGateway.Net
