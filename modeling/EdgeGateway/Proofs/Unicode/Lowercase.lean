import EdgeGateway.Proofs.Text.Letters
import EdgeGateway.Unicode.Lowercase

/-!
# Lower case is final

What has been lowered stays as it is when it is lowered again.  Apart from two
letters every ASCII character of a lowered text comes from an ASCII character, so
lowering brings in no separator, and it does not see the case of ASCII letters.

The table of the characters beyond ASCII is checked as a whole: no image of a run
lies where another run begins to move.
-/

namespace EdgeGateway.Unicode

open Text (lowerAscii lowerAsciiChar toNat_lowerAsciiChar)

/-! ## Tables -/

/-- The words of a text in lines. -/
def wordsOf (chars : List Char) : List (List Char) :=
  (Text.splitAtEvery ' ' (chars.map fun char =>
    if char = '\n' then ' ' else char)).filter (· ≠ [])

/-- A table is read from the characters that it is written with. -/
theorem tableWords_of_eq {table : String} {chars : List Char}
    (hchars : table = String.ofList chars) : tableWords table = wordsOf chars := by
  rw [hchars, tableWords, String.toList_ofList]
  rfl

namespace CaseRun

/-- The last code point that an image may have. -/
def last (run : CaseRun) : Nat := run.start + (run.final - run.first)

theorem image?_eq_some_iff {run : CaseRun} {code image : Nat} :
    run.image? code = some image ↔
      (run.first ≤ code ∧ code ≤ run.final ∧ (code - run.first) % run.step = 0) ∧
        run.start + (code - run.first) = image := by
  unfold image?
  split
  next hmoved => simp [hmoved]
  next hother => simp [hother]

/-- No image of a run is moved by another one: the code points are elsewhere, or
they are the odd ones where the other are even. -/
def isApart (run other : CaseRun) : Bool :=
  run.last < other.first || other.final < run.start ||
    (other.step = 2 && (run.step = 2 || run.first = run.final) &&
      (run.start + other.first) % 2 = 1)

theorem image?_of_isApart {run other : CaseRun} (hapart : run.isApart other = true)
    {code image : Nat} (himage : run.image? code = some image) :
    other.image? image = none := by
  obtain ⟨⟨hfirst, hfinal, hstep⟩, rfl⟩ := image?_eq_some_iff.mp himage
  apply if_neg
  rintro ⟨hmoved, hlast, heven⟩
  have hspan : run.last = run.start + (run.final - run.first) := rfl
  simp only [isApart, Bool.or_eq_true, Bool.and_eq_true, decide_eq_true_eq] at hapart
  rcases hapart with (hbefore | hbehind) | ⟨⟨hother, hsteps⟩, hodd⟩
  · omega
  · omega
  · rw [hother] at heven
    rcases hsteps with hrun | hsingle
    · rw [hrun] at hstep
      omega
    · omega

/-- The images are characters, and none of them is a letter that is lowered in a
way of its own.  Only the Kelvin sign goes to ASCII. -/
def isProper (run : CaseRun) : Bool :=
  (0x80 ≤ run.start || (run.first = run.final && run.start = 0x6B)) &&
    (run.last < 0xD800 || (0xE000 ≤ run.start && run.last < 0x110000)) &&
    [0x130, 0x3A3].all (fun code => run.last < code || code < run.start) &&
    [0x307, 0x3C2, 0x3C3].all fun code => (run.image? code).isNone

end CaseRun

set_option maxRecDepth 100000 in
theorem lowercaseTable_checked :
    (lowercaseTable.all fun run => run.isProper && lowercaseTable.all run.isApart) =
      true := by
  rw [lowercaseTable, readRuns, tableWords_of_eq (rfl : lowercaseRuns = String.ofList _)]
  decide +kernel

/-- What the check says about one run. -/
theorem run_checked {run : CaseRun} (hrun : run ∈ lowercaseTable) :
    run.isProper = true ∧ ∀ other ∈ lowercaseTable, run.isApart other = true := by
  have hchecked := List.all_eq_true.mp lowercaseTable_checked run hrun
  rwa [Bool.and_eq_true, List.all_eq_true] at hchecked

/-! ## One character -/

theorem lowercaseCode_of_unmoved {code : Nat}
    (hunmoved : ∀ run ∈ lowercaseTable, run.image? code = none) :
    lowercaseCode code = code := by
  rw [lowercaseCode, List.findSome?_eq_none_iff.mpr hunmoved]
  rfl

/-- A code point stays as it is, or a run moves it. -/
theorem lowercaseCode_cases (code : Nat) :
    (∀ run ∈ lowercaseTable, run.image? code = none) ∧ lowercaseCode code = code ∨
      ∃ run ∈ lowercaseTable, run.image? code = some (lowercaseCode code) := by
  cases hfound : lowercaseTable.findSome? fun run => run.image? code with
  | none =>
      have hunmoved := List.findSome?_eq_none_iff.mp hfound
      exact Or.inl ⟨hunmoved, lowercaseCode_of_unmoved hunmoved⟩
  | some image =>
      obtain ⟨run, hrun, himage⟩ := List.exists_of_findSome?_eq_some hfound
      refine Or.inr ⟨run, hrun, ?_⟩
      rw [lowercaseCode, hfound, himage]
      rfl

/-- What is lowered to itself wherever it stands. -/
structure IsFinal (char : Char) : Prop where
  notSigma : char.toNat ≠ 0x3A3
  kept : lowercaseChar char = [char]

theorem toNat_lowerAsciiChar_lt {char : Char} (hascii : char.toNat < 0x80) :
    (lowerAsciiChar char).toNat < 0x80 := by
  rw [toNat_lowerAsciiChar]
  split <;> omega

theorem lowerAsciiChar_of_beyond {char : Char} (hbeyond : ¬ char.toNat < 0x80) :
    lowerAsciiChar char = char := by
  apply Char.toNat_inj.mp
  rw [toNat_lowerAsciiChar, if_neg (by omega)]

theorem isFinal_lowerAsciiChar {char : Char} (hascii : char.toNat < 0x80) :
    IsFinal (lowerAsciiChar char) := by
  have hlowered := toNat_lowerAsciiChar_lt hascii
  refine ⟨by omega, ?_⟩
  rw [lowercaseChar, if_pos hlowered, Text.lowerAsciiChar_idem]

theorem isFinal_of_unmoved {char : Char} (hbeyond : ¬ char.toNat < 0x80)
    (hdotted : char.toNat ≠ 0x130) (hsigma : char.toNat ≠ 0x3A3)
    (hunmoved : ∀ run ∈ lowercaseTable, run.image? char.toNat = none) :
    IsFinal char := by
  refine ⟨hsigma, ?_⟩
  rw [lowercaseChar, if_neg hbeyond, if_neg hdotted, lowercaseCode_of_unmoved hunmoved,
    Char.ofNat_toNat]

/-- The characters that lowering puts in besides the images of the runs. -/
theorem isFinal_of_mem {code : Nat} (hcode : code ∈ [0x307, 0x3C2, 0x3C3]) :
    IsFinal (Char.ofNat code) := by
  have hcodes : code = 0x307 ∨ code = 0x3C2 ∨ code = 0x3C3 := by simpa using hcode
  have htoNat : (Char.ofNat code).toNat = code := by
    rcases hcodes with rfl | rfl | rfl <;> rfl
  apply isFinal_of_unmoved <;> rw [htoNat]
  · omega
  · omega
  · omega
  · intro run hrun
    have hproper := (run_checked hrun).1
    rw [CaseRun.isProper, Bool.and_eq_true, List.all_eq_true] at hproper
    exact Option.isNone_iff_eq_none.mp (hproper.2 code hcode)

/-- An image is a final character beyond ASCII, or the letter k. -/
theorem isFinal_image {run : CaseRun} (hrun : run ∈ lowercaseTable) {code image : Nat}
    (himage : run.image? code = some image) :
    IsFinal (Char.ofNat image) ∧ (Char.ofNat image).toNat = image ∧
      (image < 0x80 → image = 0x6B) := by
  obtain ⟨hproper, haparts⟩ := run_checked hrun
  have hunmoved : ∀ other ∈ lowercaseTable, other.image? image = none :=
    fun other hother => CaseRun.image?_of_isApart (haparts other hother) himage
  obtain ⟨⟨hfirst, hfinal, -⟩, hplace⟩ := CaseRun.image?_eq_some_iff.mp himage
  have hspan : run.last = run.start + (run.final - run.first) := rfl
  simp only [CaseRun.isProper, Bool.and_eq_true, Bool.or_eq_true, decide_eq_true_eq,
    List.all_cons, List.all_nil] at hproper
  obtain ⟨⟨⟨hstart, hvalid⟩, hdotted, hsigma, -⟩, -⟩ := hproper
  have htoNat : (Char.ofNat image).toNat = image := by
    have hscalar : image.isValidChar := by
      unfold Nat.isValidChar
      omega
    rw [Char.ofNat, dif_pos hscalar]
    rfl
  have hkelvin : image < 0x80 → image = 0x6B := by omega
  refine ⟨?_, htoNat, hkelvin⟩
  by_cases hascii : image < 0x80
  · rw [hkelvin hascii]
    exact isFinal_lowerAsciiChar (by decide : ('k' : Char).toNat < 0x80)
  · apply isFinal_of_unmoved <;> rw [htoNat]
    · exact hascii
    · omega
    · omega
    · exact hunmoved

/-- A character is lowered to final characters. -/
theorem isFinal_of_mem_lowercaseChar {char lowered : Char} (hsigma : char.toNat ≠ 0x3A3)
    (hlowered : lowered ∈ lowercaseChar char) : IsFinal lowered := by
  unfold lowercaseChar at hlowered
  split at hlowered
  next hascii =>
    obtain rfl := List.mem_singleton.mp hlowered
    exact isFinal_lowerAsciiChar hascii
  next hbeyond =>
    split at hlowered
    next =>
      rcases List.mem_pair.mp hlowered with rfl | rfl
      · exact isFinal_lowerAsciiChar (by decide : ('i' : Char).toNat < 0x80)
      · exact isFinal_of_mem (by decide)
    next hdotted =>
      rw [List.mem_singleton.mp hlowered]
      rcases lowercaseCode_cases char.toNat with ⟨hunmoved, hkept⟩ | ⟨run, hrun, himage⟩
      · rw [hkept, Char.ofNat_toNat]
        exact isFinal_of_unmoved hbeyond hdotted hsigma hunmoved
      · exact (isFinal_image hrun himage).1

theorem lowercaseChar_ne_nil (char : Char) : lowercaseChar char ≠ [] := by
  unfold lowercaseChar
  split
  · simp
  · split <;> simp

/-- Only two ASCII letters can come from beyond ASCII. -/
theorem lowercaseChar_of_ascii {char lowered : Char}
    (hlowered : lowered ∈ lowercaseChar char) (hascii : lowered.toNat < 0x80)
    (hi : lowered ≠ 'i') (hk : lowered ≠ 'k') :
    lowercaseChar char = [lowerAsciiChar char] ∧ lowered = lowerAsciiChar char := by
  unfold lowercaseChar at hlowered ⊢
  split at hlowered
  next hinner => exact ⟨if_pos hinner, List.mem_singleton.mp hlowered⟩
  next hbeyond =>
    exfalso
    split at hlowered
    next =>
      rcases List.mem_pair.mp hlowered with rfl | rfl
      · exact hi rfl
      · exact absurd hascii (by decide)
    next =>
      have himage := List.mem_singleton.mp hlowered
      rcases lowercaseCode_cases char.toNat with ⟨-, hkept⟩ | ⟨run, hrun, hmoved⟩
      · rw [himage, hkept, Char.ofNat_toNat] at hascii
        exact hbeyond hascii
      · obtain ⟨-, htoNat, hkelvin⟩ := isFinal_image hrun hmoved
        rw [himage, htoNat] at hascii
        exact hk (by rw [himage, hkelvin hascii])

/-! ## Texts -/

theorem isFinal_of_mem_lowercaseFrom {before chars : List Char} :
    ∀ lowered ∈ lowercaseFrom before chars, IsFinal lowered := by
  induction chars generalizing before with
  | nil => simp [lowercaseFrom]
  | cons char chars ih =>
      intro lowered hlowered
      rw [lowercaseFrom] at hlowered
      rcases List.mem_append.mp hlowered with hfirst | hrest
      · split at hfirst
        next =>
          split at hfirst
          next =>
            obtain rfl := List.mem_singleton.mp hfirst
            exact isFinal_of_mem (by decide)
          next =>
            obtain rfl := List.mem_singleton.mp hfirst
            exact isFinal_of_mem (by decide)
        next hsigma => exact isFinal_of_mem_lowercaseChar hsigma hfirst
      · exact ih lowered hrest

theorem lowercaseFrom_of_isFinal {before chars : List Char}
    (hfinal : ∀ char ∈ chars, IsFinal char) : lowercaseFrom before chars = chars := by
  induction chars generalizing before with
  | nil => rfl
  | cons char chars ih =>
      obtain ⟨hchar, hchars⟩ := List.forall_mem_cons.mp hfinal
      rw [lowercaseFrom, if_neg hchar.notSigma, hchar.kept, ih hchars,
        List.singleton_append]

@[simp]
theorem lowercase_lowercase (text : String) :
    lowercase (lowercase text) = lowercase text := by
  simp only [lowercase, String.toList_ofList,
    lowercaseFrom_of_isFinal isFinal_of_mem_lowercaseFrom]

/-- An ASCII character other than the two letters that may come from beyond. -/
def isPlain (char : Char) : Bool :=
  char.toNat < 0x80 && char ≠ 'i' && char ≠ 'k'

/-- A text of other ASCII characters is lowered letter by letter. -/
theorem lowercaseFrom_of_isPlain {before chars : List Char}
    (hplain : ∀ lowered ∈ lowercaseFrom before chars, isPlain lowered = true) :
    lowercaseFrom before chars = chars.map lowerAsciiChar := by
  induction chars generalizing before with
  | nil => rfl
  | cons char chars ih =>
      rw [lowercaseFrom, List.forall_mem_append] at hplain
      obtain ⟨hfirst, hrest⟩ := hplain
      rw [lowercaseFrom, ih hrest, List.map_cons]
      split at hfirst
      next => split at hfirst <;> simp [isPlain] at hfirst
      next hsigma =>
        obtain ⟨lowered, hlowered⟩ := List.exists_mem_of_ne_nil _ (lowercaseChar_ne_nil char)
        have hascii := hfirst lowered hlowered
        simp only [isPlain, Bool.and_eq_true, decide_eq_true_eq, ne_eq] at hascii
        rw [if_neg hsigma,
          (lowercaseChar_of_ascii hlowered hascii.1.1 hascii.1.2 hascii.2).1]
        rfl

/-- No separator is brought in. -/
theorem mem_of_mem_lowercaseFrom {mark : Char} (hmark : mark.toNat < 65)
    {before chars : List Char} (hmem : mark ∈ lowercaseFrom before chars) :
    mark ∈ chars := by
  have hne : ∀ letter : Char, 65 ≤ letter.toNat → mark ≠ letter := by
    rintro letter hletter rfl
    omega
  induction chars generalizing before with
  | nil => exact hmem
  | cons char chars ih =>
      rw [lowercaseFrom] at hmem
      rcases List.mem_append.mp hmem with hfirst | hrest
      · split at hfirst
        next =>
          split at hfirst
          next => exact absurd (List.mem_singleton.mp hfirst) (hne _ (by decide))
          next => exact absurd (List.mem_singleton.mp hfirst) (hne _ (by decide))
        next =>
          obtain ⟨-, hchar⟩ := lowercaseChar_of_ascii hfirst (by omega)
            (hne 'i' (by decide)) (hne 'k' (by decide))
          rw [(Text.lowerAsciiChar_eq_iff hmark).mp hchar.symm]
          exact List.mem_cons_self
      · exact List.mem_cons_of_mem _ (ih hrest)

theorem lowercaseFrom_eq_nil_iff {before chars : List Char} :
    lowercaseFrom before chars = [] ↔ chars = [] := by
  cases chars with
  | nil => simp [lowercaseFrom]
  | cons char chars =>
      have hsome := lowercaseChar_ne_nil char
      rw [lowercaseFrom]
      split
      next => split <;> simp
      next => simp [hsome]

/-! ## The case of ASCII letters -/

section

set_option maxRecDepth 100000

/-- Whether a letter is cased or is passed over does not depend on its case. -/
theorem letters_checked :
    ∀ code ∈ List.range' 65 26,
      caseIgnorableTable.contains (code + 32) = caseIgnorableTable.contains code ∧
        casedTable.contains (code + 32) = casedTable.contains code := by
  rw [caseIgnorableTable, casedTable, readRanges, readRanges,
    tableWords_of_eq (rfl : caseIgnorableRanges = String.ofList _),
    tableWords_of_eq (rfl : casedRanges = String.ofList _)]
  decide +kernel

end

theorem containsChar_lowerAsciiChar (char : Char) :
    caseIgnorableTable.containsChar (lowerAsciiChar char) =
        caseIgnorableTable.containsChar char ∧
      casedTable.containsChar (lowerAsciiChar char) = casedTable.containsChar char := by
  simp only [CodeRanges.containsChar, toNat_lowerAsciiChar]
  split
  next hletter =>
    have hmem : char.toNat ∈ List.range' 65 26 := by
      rw [List.mem_range'_1]
      omega
    exact letters_checked char.toNat hmem
  next => exact ⟨rfl, rfl⟩

theorem meetsCased_map_lowerAsciiChar (chars : List Char) :
    meetsCased (chars.map lowerAsciiChar) = meetsCased chars := by
  have hpassed : (fun char => caseIgnorableTable.containsChar char) ∘ lowerAsciiChar =
      fun char => caseIgnorableTable.containsChar char := by
    funext char
    rw [Function.comp_apply, (containsChar_lowerAsciiChar char).1]
  rw [meetsCased, List.dropWhile_map, hpassed, meetsCased]
  cases chars.dropWhile fun char => caseIgnorableTable.containsChar char with
  | nil => rfl
  | cons first rest => exact (containsChar_lowerAsciiChar first).2

theorem lowercaseChar_lowerAsciiChar (char : Char) :
    lowercaseChar (lowerAsciiChar char) = lowercaseChar char := by
  by_cases hascii : char.toNat < 0x80
  · rw [(isFinal_lowerAsciiChar hascii).kept, lowercaseChar, if_pos hascii]
  · rw [lowerAsciiChar_of_beyond hascii]

theorem lowercaseFrom_map_lowerAsciiChar (before chars : List Char) :
    lowercaseFrom (before.map lowerAsciiChar) (chars.map lowerAsciiChar) =
      lowercaseFrom before chars := by
  induction chars generalizing before with
  | nil => rfl
  | cons char chars ih =>
      have hsigma : (lowerAsciiChar char).toNat = 0x3A3 ↔ char.toNat = 0x3A3 := by
        rw [toNat_lowerAsciiChar]
        split <;> omega
      rw [List.map_cons, lowercaseFrom, lowercaseFrom, meetsCased_map_lowerAsciiChar,
        meetsCased_map_lowerAsciiChar, lowercaseChar_lowerAsciiChar, ← List.map_cons,
        ih (char :: before)]
      simp only [hsigma]

/-- Texts that differ in the case of ASCII letters are lowered to the same text. -/
theorem lowercase_congr {left right : String}
    (hsame : lowerAscii left = lowerAscii right) : lowercase left = lowercase right := by
  have hlower : ∀ text, lowercase (lowerAscii text) = lowercase text := fun text => by
    have hchars := lowercaseFrom_map_lowerAsciiChar [] text.toList
    rw [lowercase, lowerAscii, String.toList_ofList, lowercase, ← hchars, List.map_nil]
  rw [← hlower left, hsame, hlower]

end EdgeGateway.Unicode
