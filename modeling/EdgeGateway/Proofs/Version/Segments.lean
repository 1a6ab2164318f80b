import EdgeGateway.Proofs.Net.Site
import EdgeGateway.Proofs.Unicode.Lowercase
import EdgeGateway.Version.Resource

/-!
# Segments of a path

A path is written as segments with slashes between them, and then perhaps a query
or a fragment.  It has these segments in one way only.  Some of them are versions: the
letter v and numbers with dots between them.  Whether a segment is a version does not
depend on the case of its letters.
-/

namespace EdgeGateway.Version

open Text (glue splitAtEvery lowerAsciiChar lowerAscii)

/-! ## Versions -/

def IsNumber (group : List Char) : Prop :=
  group ≠ [] ∧ ∀ char ∈ group, '0' ≤ char ∧ char ≤ '9'

/-- The letter v and numbers with dots between them. -/
def IsVersion (segment : List Char) : Prop :=
  ∃ letter groups, (letter = 'v' ∨ letter = 'V') ∧ groups ≠ [] ∧
    (∀ group ∈ groups, IsNumber group) ∧ segment = letter :: glue ['.'] groups

theorem isVersionChars_cons_iff {letter : Char} {rest : List Char} :
    isVersionChars (letter :: rest) = true ↔
      (letter = 'v' ∨ letter = 'V') ∧ rest ≠ [] ∧
        ∀ group ∈ splitAtEvery '.' rest, IsNumber group := by
  simp [isVersionChars, IsNumber, Text.isAsciiDigit, and_assoc]

theorem IsNumber.dot_not_mem {group : List Char} (hgroup : IsNumber group) : '.' ∉ group :=
  fun hmem => absurd (hgroup.2 '.' hmem) (by decide)

theorem isVersionChars_iff {segment : List Char} :
    isVersionChars segment = true ↔ IsVersion segment := by
  constructor
  · intro hversion
    cases segment with
    | nil => simp [isVersionChars] at hversion
    | cons letter rest =>
        obtain ⟨hletter, -, hgroups⟩ := isVersionChars_cons_iff.mp hversion
        exact ⟨letter, splitAtEvery '.' rest, hletter, Text.splitAtEvery_ne_nil '.' rest,
          hgroups, by rw [Text.glue_splitAtEvery]⟩
  · rintro ⟨letter, groups, hletter, hsome, hgroups, rfl⟩
    have hrest : glue ['.'] groups ≠ [] := by
      rw [ne_eq, Text.glue_eq_nil_iff]
      rintro (hnone | rfl)
      · exact hsome hnone
      · exact (hgroups [] (List.mem_singleton.mpr rfl)).1 rfl
    have hcut := Text.splitAtEvery_glue hsome fun group hgroup =>
      (hgroups group hgroup).dot_not_mem
    exact isVersionChars_cons_iff.mpr ⟨hletter, hrest, hcut.symm ▸ hgroups⟩

instance : DecidablePred IsVersion := fun _ =>
  decidable_of_iff _ isVersionChars_iff

theorem isVersionChars_eq_false_iff {segment : List Char} :
    isVersionChars segment = false ↔ ¬ IsVersion segment := by
  rw [← isVersionChars_iff, Bool.not_eq_true]

/-- What versions are written with. -/
def standsInVersion (char : Char) : Bool :=
  char = 'v' || char = 'V' || char = '.' || Text.isAsciiDigit char

theorem IsVersion.standsInVersion {segment : List Char} (hversion : IsVersion segment) :
    ∀ char ∈ segment, standsInVersion char = true := by
  obtain ⟨letter, groups, hletter, -, hgroups, rfl⟩ := hversion
  intro char hchar
  rcases List.mem_cons.mp hchar with rfl | hrest
  · rcases hletter with rfl | rfl <;> rfl
  · rcases Text.mem_glue hrest with rfl | ⟨group, hgroup, hmem⟩
    · rfl
    · have hdigit := (hgroups group hgroup).2 char hmem
      simp [Version.standsInVersion, Text.isAsciiDigit, hdigit]

theorem IsVersion.not_mem {segment : List Char} (hversion : IsVersion segment) {mark : Char}
    (hmark : Version.standsInVersion mark = false) : mark ∉ segment := fun hmem =>
  Bool.false_ne_true (hmark.symm.trans (hversion.standsInVersion mark hmem))

theorem toNat_of_standsInVersion {char : Char} (hchar : standsInVersion char = true) :
    0x20 < char.toNat ∧ char.toNat < 0x7F := by
  simp only [standsInVersion, Text.isAsciiDigit, Bool.or_eq_true, Bool.and_eq_true,
    decide_eq_true_eq] at hchar
  rcases hchar with ((rfl | rfl) | rfl) | ⟨hlow, hhigh⟩
  · decide
  · decide
  · decide
  · have hcodes : 48 ≤ char.toNat ∧ char.toNat ≤ 57 := ⟨hlow, hhigh⟩
    omega

/-! ### The case of letters -/

theorem isAsciiDigit_lowerAsciiChar (char : Char) :
    Text.isAsciiDigit (lowerAsciiChar char) = Text.isAsciiDigit char := by
  have hdigit : ∀ char, Text.isAsciiDigit char = true ↔ 48 ≤ char.toNat ∧ char.toNat ≤ 57 := by
    intro char
    simp only [Text.isAsciiDigit, Bool.and_eq_true, decide_eq_true_eq]
    exact Iff.rfl
  rw [Bool.eq_iff_iff, hdigit, hdigit, Text.toNat_lowerAsciiChar]
  split <;> omega

theorem lowerAsciiChar_eq_v_iff (char : Char) :
    lowerAsciiChar char = 'v' ∨ lowerAsciiChar char = 'V' ↔ char = 'v' ∨ char = 'V' := by
  have hv : ('v' : Char).toNat = 118 ∧ ('V' : Char).toNat = 86 := by decide
  simp only [← Char.toNat_inj, Text.toNat_lowerAsciiChar, hv]
  split <;> omega

theorem isVersionChars_map_lowerAsciiChar (segment : List Char) :
    isVersionChars (segment.map lowerAsciiChar) = isVersionChars segment := by
  have hdigit : Text.isAsciiDigit ∘ lowerAsciiChar = Text.isAsciiDigit :=
    funext isAsciiDigit_lowerAsciiChar
  have hdot : ∀ char, lowerAsciiChar char = '.' ↔ char = '.' :=
    fun _ => Text.lowerAsciiChar_eq_iff (by decide)
  cases segment with
  | nil => rfl
  | cons letter rest =>
      have hletter : (lowerAsciiChar letter = 'v' || lowerAsciiChar letter = 'V') =
          (letter = 'v' || letter = 'V') := by
        rw [Bool.eq_iff_iff]
        simpa using lowerAsciiChar_eq_v_iff letter
      rw [List.map_cons, isVersionChars, isVersionChars, hletter, List.isEmpty_map,
        Text.splitAtEvery_map hdot, List.all_map]
      congr 2
      funext group
      rw [Function.comp_apply, List.isEmpty_map, List.all_map, hdigit]

theorem isVersion_map_lowerAsciiChar {segment : List Char} :
    IsVersion (segment.map lowerAsciiChar) ↔ IsVersion segment := by
  rw [← isVersionChars_iff, ← isVersionChars_iff, isVersionChars_map_lowerAsciiChar]

theorem isPlain_of_standsInVersion {char : Char} (hchar : standsInVersion char = true) :
    Unicode.isPlain char = true := by
  have hcode := toNat_of_standsInVersion hchar
  have hne : ∀ letter, standsInVersion letter = false → char ≠ letter := by
    rintro letter hletter rfl
    exact Bool.false_ne_true (hletter.symm.trans hchar)
  simp only [Unicode.isPlain, Bool.and_eq_true, decide_eq_true_eq, ne_eq]
  exact ⟨⟨by omega, hne 'i' (by decide)⟩, hne 'k' (by decide)⟩

/-- No other segment becomes a version when it is lowered. -/
theorem isVersion_of_lowercase {segment : String}
    (hversion : IsVersion (Unicode.lowercase segment).toList) :
    IsVersion segment.toList := by
  rw [Unicode.lowercase, String.toList_ofList] at hversion
  have hplain := Unicode.lowercaseFrom_of_isPlain fun lowered hlowered =>
    isPlain_of_standsInVersion (hversion.standsInVersion lowered hlowered)
  rw [hplain] at hversion
  exact isVersion_map_lowerAsciiChar.mp hversion

/-! ## Paths -/

/-- A path is written as these segments, and then perhaps a query or a fragment. -/
structure HasSegments (path : String) (segments : List (List Char)) : Prop where
  some : segments ≠ []
  apart : ∀ segment ∈ segments, '/' ∉ segment ∧ '?' ∉ segment ∧ '#' ∉ segment
  written : ∃ tail, path.toList = glue ['/'] segments ++ tail ∧
    ∀ char ∈ tail.head?, char = '?' ∨ char = '#'

def isUnmarked (char : Char) : Bool := char ≠ '?' && char ≠ '#'

/-- The text before a query or a fragment. -/
def beforeQuery (path : String) : List Char := path.toList.takeWhile isUnmarked

theorem isUnmarked_iff {char : Char} : isUnmarked char = true ↔ char ≠ '?' ∧ char ≠ '#' := by
  simp [isUnmarked]

theorem isUnmarked_eq_false_iff {char : Char} :
    isUnmarked char = false ↔ char = '?' ∨ char = '#' := by
  rw [← Bool.not_eq_true, isUnmarked_iff]
  tauto

theorem HasSegments.beforeQuery_eq {path : String} {segments : List (List Char)}
    (hsegments : HasSegments path segments) : beforeQuery path = glue ['/'] segments := by
  obtain ⟨tail, hpath, htail⟩ := hsegments.written
  have hkept : (glue ['/'] segments).takeWhile isUnmarked = glue ['/'] segments := by
    rw [List.takeWhile_eq_self_iff]
    intro char hchar
    rcases Text.mem_glue hchar with rfl | ⟨segment, hsegment, hmem⟩
    · rfl
    · obtain ⟨-, hquery, hfragment⟩ := hsegments.apart segment hsegment
      exact isUnmarked_iff.mpr ⟨fun h => hquery (h ▸ hmem), fun h => hfragment (h ▸ hmem)⟩
  rw [beforeQuery, hpath]
  cases tail with
  | nil => rw [List.append_nil, hkept]
  | cons char rest =>
      have hmark := isUnmarked_eq_false_iff.mpr (htail char rfl)
      rw [Net.Url.takeWhile_append_of_head hmark, hkept]

theorem hasSegments_iff {path : String} {segments : List (List Char)} :
    HasSegments path segments ↔ segments = splitAtEvery '/' (beforeQuery path) := by
  constructor
  · intro hsegments
    rw [hsegments.beforeQuery_eq, Text.splitAtEvery_glue hsegments.some fun segment hsegment =>
      (hsegments.apart segment hsegment).1]
  · rintro rfl
    refine ⟨Text.splitAtEvery_ne_nil _ _, fun segment hsegment => ?_, ?_⟩
    · have hslash := Text.not_mem_of_mem_splitAtEvery (beforeQuery path) segment hsegment
      have hunmarked : ∀ char ∈ segment, char ≠ '?' ∧ char ≠ '#' := fun char hchar =>
        isUnmarked_iff.mp
          (List.mem_takeWhile_imp (Text.mem_of_mem_splitAtEvery hsegment char hchar))
      exact ⟨hslash, fun hmem => (hunmarked _ hmem).1 rfl, fun hmem => (hunmarked _ hmem).2 rfl⟩
    · refine ⟨path.toList.dropWhile isUnmarked, ?_, fun char hchar => ?_⟩
      · rw [Text.glue_splitAtEvery, beforeQuery, List.takeWhile_append_dropWhile]
      · have hhead := List.head?_dropWhile_not isUnmarked path.toList
        rw [Option.mem_def.mp hchar] at hhead
        exact isUnmarked_eq_false_iff.mp (by simpa using hhead)

/-- Every path has segments in one way. -/
theorem existsUnique_hasSegments (path : String) : ∃! segments, HasSegments path segments :=
  ⟨_, hasSegments_iff.mpr rfl, fun _ hsegments => hasSegments_iff.mp hsegments⟩

theorem HasSegments.lowerAscii {path : String} {segments : List (List Char)}
    (hsegments : HasSegments path segments) :
    HasSegments (lowerAscii path) (segments.map (List.map lowerAsciiChar)) := by
  have hmark : ∀ mark : Char, mark.toNat < 65 → ∀ char, lowerAsciiChar char = mark ↔ char = mark :=
    fun mark hmark char => Text.lowerAsciiChar_eq_iff hmark
  have hkept : isUnmarked ∘ lowerAsciiChar = isUnmarked := by
    funext char
    simp [isUnmarked, hmark '?' (by decide), hmark '#' (by decide)]
  have hbefore : beforeQuery (Text.lowerAscii path) = (beforeQuery path).map lowerAsciiChar := by
    rw [beforeQuery, Text.lowerAscii, String.toList_ofList, List.takeWhile_map, hkept,
      beforeQuery]
  rw [hasSegments_iff, hbefore, Text.splitAtEvery_map (hmark '/' (by decide)),
    hasSegments_iff.mp hsegments]

end EdgeGateway.Version
