import EdgeGateway.Proofs.Unicode.Lowercase
import EdgeGateway.Unicode.Property

/-!
# ASCII letters and case folding

A set that is brought into normal form keeps its members.  Among the ASCII characters
only the letters are folded, each to its lower case, so a set of one ASCII character
that is closed under folding holds no other ones than the same letter in either case.
Besides these it holds at most a few letters from beyond ASCII.
-/

namespace EdgeGateway.Unicode

open Text (lowerAsciiChar toNat_lowerAsciiChar)

/-! ## Normal forms -/

namespace CodeRanges

theorem contains_iff {ranges : CodeRanges} {code : Nat} :
    ranges.contains code = true ↔ ∃ range ∈ ranges, range.1 ≤ code ∧ code ≤ range.2 := by
  simp [contains]

theorem contains_cons {range : Nat × Nat} {ranges : CodeRanges} {code : Nat} :
    contains (range :: ranges) code = true ↔
      (range.1 ≤ code ∧ code ≤ range.2) ∨ ranges.contains code = true := by
  rw [contains_iff, List.exists_mem_cons_iff, contains_iff]

theorem contains_append {left right : CodeRanges} {code : Nat} :
    contains (left ++ right) code = true ↔
      left.contains code = true ∨ right.contains code = true := by
  simp only [contains_iff, List.mem_append, or_and_right, exists_or]

/-- What joining begins with is where the ranges begin. -/
theorem exists_joinTouching_cons (range : Nat × Nat) (ranges : CodeRanges) :
    ∃ last rest, joinTouching (range :: ranges) = (range.1, last) :: rest := by
  obtain ⟨first, final⟩ := range
  unfold joinTouching
  split
  next => exact ⟨_, _, rfl⟩
  next => split <;> exact ⟨_, _, rfl⟩

theorem contains_joinTouching {ranges : CodeRanges}
    (hproper : ∀ range ∈ ranges, range.1 ≤ range.2)
    (hsorted : ranges.Pairwise (·.1 ≤ ·.1)) (code : Nat) :
    (joinTouching ranges).contains code = true ↔ ranges.contains code = true := by
  induction ranges with
  | nil => exact Iff.rfl
  | cons range ranges ih =>
      obtain ⟨first, final⟩ := range
      obtain ⟨hrange, hmore⟩ := List.forall_mem_cons.mp hproper
      obtain ⟨hfirst, hrest⟩ := List.pairwise_cons.mp hsorted
      have hjoined := ih hmore hrest
      rw [contains_cons, ← hjoined]
      cases ranges with
      | nil => exact contains_cons
      | cons next ranges =>
          obtain ⟨last, others, hnext⟩ := exists_joinTouching_cons next ranges
          have hbegins : first ≤ next.1 := hfirst next List.mem_cons_self
          rw [hnext, contains_cons, joinTouching, hnext]
          dsimp only at hrange ⊢
          split
          next htouching =>
            -- the gap between the two ranges is empty, so the hull is their union
            rw [contains_cons]
            constructor
            · rintro (⟨hlow, hhigh⟩ | hothers)
              · rcases Nat.le_total code final with hwithin | hbeyond
                · exact Or.inl ⟨hlow, hwithin⟩
                · rcases Nat.eq_or_lt_of_le hbeyond with rfl | hlater
                  · exact Or.inl ⟨hlow, Nat.le_refl _⟩
                  · exact Or.inr (Or.inl ⟨by omega, by omega⟩)
              · exact Or.inr (Or.inr hothers)
            · rintro (⟨hlow, hhigh⟩ | ⟨hlow, hhigh⟩ | hothers)
              · exact Or.inl ⟨hlow, by omega⟩
              · exact Or.inl ⟨by omega, by omega⟩
              · exact Or.inr hothers
          next => rw [contains_cons, contains_cons]

/-- A set in normal form has the same members. -/
theorem contains_normalize (ranges : CodeRanges) (code : Nat) :
    (normalize ranges).contains code = true ↔ ranges.contains code = true := by
  let precedes : Nat × Nat → Nat × Nat → Bool := fun left right =>
    left.1 < right.1 || (left.1 == right.1 && left.2 ≥ right.2)
  let proper := ranges.filter fun range => range.1 ≤ range.2
  have hperm : (proper.mergeSort precedes).Perm proper := List.mergeSort_perm _ _
  have hordered : (proper.mergeSort precedes).Pairwise fun left right =>
      precedes left right = true := by
    apply List.pairwise_mergeSort
    · intro one other third
      simp only [precedes, Bool.or_eq_true, Bool.and_eq_true, decide_eq_true_eq, beq_iff_eq]
      omega
    · intro one other
      simp only [precedes, Bool.or_eq_true, Bool.and_eq_true, decide_eq_true_eq, beq_iff_eq]
      omega
  have hsorted : (proper.mergeSort precedes).Pairwise (·.1 ≤ ·.1) := by
    refine hordered.imp fun {left right} hprecedes => ?_
    simp only [precedes, Bool.or_eq_true, Bool.and_eq_true, decide_eq_true_eq,
      beq_iff_eq] at hprecedes
    omega
  have hproper : ∀ range ∈ proper.mergeSort precedes, range.1 ≤ range.2 := by
    intro range hrange
    simpa using (List.mem_filter.mp (hperm.mem_iff.mp hrange)).2
  have hjoin := contains_joinTouching hproper hsorted code
  refine hjoin.trans ?_
  simp only [contains_iff, hperm.mem_iff, proper, List.mem_filter, decide_eq_true_eq]
  constructor
  · rintro ⟨range, ⟨hrange, -⟩, hcode⟩
    exact ⟨range, hrange, hcode⟩
  · rintro ⟨range, hrange, hcode⟩
    exact ⟨range, ⟨hrange, by omega⟩, hcode⟩

theorem length_joinTouching_le (ranges : CodeRanges) :
    (joinTouching ranges).length ≤ ranges.length := by
  induction ranges with
  | nil => exact Nat.le_refl _
  | cons range ranges ih =>
      obtain ⟨first, final⟩ := range
      unfold joinTouching
      split
      next => simp
      next hjoined =>
        rw [hjoined, List.length_cons] at ih
        split <;> simp only [List.length_cons] <;> omega

theorem length_normalize_le (ranges : CodeRanges) :
    (normalize ranges).length ≤ ranges.length := by
  refine (length_joinTouching_le _).trans ?_
  rw [List.length_mergeSort]
  exact List.length_filter_le _ _

end CodeRanges

/-! ## Folding -/

/-- What is folded within ASCII, and the two letters that fold to ASCII from beyond. -/
def asciiFolds : List (Nat × Nat) :=
  (List.range' 65 26).map (fun code => (code, code + 32)) ++ [(0x17F, 0x73), (0x212A, 0x6B)]

set_option maxRecDepth 100000 in
theorem foldPairs_checked :
    (foldPairs.filter fun fold => fold.1 < 0x80 || fold.2 < 0x80) = asciiFolds := by
  rw [foldPairs, readRuns, tableWords_of_eq (rfl : foldRuns = String.ofList _)]
  decide +kernel

theorem mem_asciiFolds_iff {fold : Nat × Nat} :
    fold ∈ asciiFolds ↔ (65 ≤ fold.1 ∧ fold.1 ≤ 90 ∧ fold.2 = fold.1 + 32) ∨
      fold = (0x17F, 0x73) ∨ fold = (0x212A, 0x6B) := by
  obtain ⟨code, image⟩ := fold
  simp only [asciiFolds, List.mem_append, List.mem_map, List.mem_range'_1, List.mem_cons,
    List.not_mem_nil, or_false, Prod.mk.injEq]
  constructor
  · rintro (⟨other, hother, rfl, rfl⟩ | hothers)
    · exact Or.inl ⟨by omega, by omega, rfl⟩
    · exact Or.inr hothers
  · rintro (⟨hlow, hhigh, rfl⟩ | hothers)
    · exact Or.inl ⟨code, by omega, rfl, rfl⟩
    · exact Or.inr hothers

theorem mem_foldPairs_iff {fold : Nat × Nat} (hascii : fold.1 < 0x80 ∨ fold.2 < 0x80) :
    fold ∈ foldPairs ↔ fold ∈ asciiFolds := by
  rw [← foldPairs_checked, List.mem_filter]
  simpa using fun _ => hascii

/-- Whether a member of a set is, or is folded to, a code point. -/
def isReached (ranges : CodeRanges) (image : Nat) : Bool :=
  foldPairs.any fun fold =>
    (ranges.contains fold.1 || ranges.contains fold.2) && image = fold.2

/-- The folds to the code points that a set reaches. -/
def reachedFolds (ranges : CodeRanges) : List (Nat × Nat) :=
  foldPairs.filter fun fold => isReached ranges fold.2

theorem flatMap_filter {α β : Type} (keep : α → Bool) (image : α → List β) (items : List α) :
    (items.filter keep).flatMap image =
      items.flatMap fun item => if keep item then image item else [] := by
  induction items with
  | nil => rfl
  | cons item items ih =>
      rw [List.filter_cons, List.flatMap_cons]
      split
      · rw [List.flatMap_cons, ih]
      · rw [ih, List.nil_append]

theorem closeUnderFolding_eq (ranges : CodeRanges) :
    closeUnderFolding ranges = CodeRanges.normalize (ranges ++
      (reachedFolds ranges).flatMap fun fold => [(fold.1, fold.1), (fold.2, fold.2)]) := by
  let touched := foldPairs.filterMap fun fold =>
    if ranges.contains fold.1 || ranges.contains fold.2 then some fold.2 else none
  have hreached : ∀ image, touched.contains image = isReached ranges image := by
    intro image
    rw [List.contains_filterMap, isReached]
    congr 1
    funext fold
    split
    next hmember => rw [hmember, Bool.true_and, Option.any_some, Bool.beq_eq_decide_eq]
    next hnone => rw [Bool.eq_false_iff.mpr hnone, Bool.false_and, Option.any_none]
  have hclosed : closeUnderFolding ranges = CodeRanges.normalize (ranges ++
      foldPairs.flatMap fun fold =>
        if touched.contains fold.2 then [(fold.1, fold.1), (fold.2, fold.2)] else []) := rfl
  rw [hclosed, reachedFolds, flatMap_filter]
  simp only [hreached]

/-- Beside its members a closed set holds what is folded to a code point that it reaches. -/
theorem contains_closeUnderFolding {ranges : CodeRanges} {code : Nat} :
    (closeUnderFolding ranges).contains code = true ↔
      ranges.contains code = true ∨
        ∃ fold ∈ reachedFolds ranges, code = fold.1 ∨ code = fold.2 := by
  rw [closeUnderFolding_eq, CodeRanges.contains_normalize, CodeRanges.contains_append]
  refine or_congr_right ?_
  rw [CodeRanges.contains_iff]
  simp only [List.mem_flatMap, List.mem_pair]
  constructor
  · rintro ⟨range, ⟨fold, hfold, rfl | rfl⟩, hlow, hhigh⟩
    · exact ⟨fold, hfold, Or.inl (Nat.le_antisymm hhigh hlow)⟩
    · exact ⟨fold, hfold, Or.inr (Nat.le_antisymm hhigh hlow)⟩
  · rintro ⟨fold, hfold, rfl | rfl⟩
    · exact ⟨_, ⟨fold, hfold, Or.inl rfl⟩, Nat.le_refl _, Nat.le_refl _⟩
    · exact ⟨_, ⟨fold, hfold, Or.inr rfl⟩, Nat.le_refl _, Nat.le_refl _⟩

theorem contains_singleton {member code : Nat} :
    CodeRanges.contains [(member, member)] code = true ↔ code = member := by
  simp only [CodeRanges.contains_iff, List.mem_singleton, exists_eq_left]
  omega

/-- A single ASCII code point reaches the lower case of its letter. -/
theorem mem_reachedFolds_iff {member : Nat} (hascii : member < 0x80) {fold : Nat × Nat} :
    fold ∈ reachedFolds [(member, member)] ↔ fold ∈ asciiFolds ∧
      (member = fold.2 ∨ 65 ≤ member ∧ member ≤ 90 ∧ fold.2 = member + 32) := by
  rw [reachedFolds, List.mem_filter, isReached, List.any_eq_true]
  simp only [Bool.and_eq_true, Bool.or_eq_true, contains_singleton, decide_eq_true_eq]
  constructor
  · rintro ⟨hfold, touching, htouching, hmember, hsame⟩
    rw [mem_foldPairs_iff (by omega), mem_asciiFolds_iff, Prod.ext_iff,
      Prod.ext_iff] at htouching
    dsimp only at htouching
    exact ⟨(mem_foldPairs_iff (by omega)).mp hfold, by omega⟩
  · rintro ⟨hfold, hreaches⟩
    have hlower := mem_asciiFolds_iff.mp hfold
    rw [Prod.ext_iff, Prod.ext_iff] at hlower
    dsimp only at hlower
    have hletter : 97 ≤ fold.2 ∧ fold.2 ≤ 122 := by omega
    have hupper : (fold.2 - 32, fold.2) ∈ foldPairs := by
      rw [mem_foldPairs_iff (by dsimp only; omega), mem_asciiFolds_iff]
      exact Or.inl ⟨by dsimp only; omega, by dsimp only; omega, by dsimp only; omega⟩
    exact ⟨(mem_foldPairs_iff (by omega)).mpr hfold, _, hupper, by dsimp only; omega, rfl⟩

/-- Among the ASCII characters only the letters are folded, to their lower case. -/
theorem containsChar_closeUnderFolding {char other : Char} (hascii : char.toNat < 0x80)
    (hother : other.toNat < 0x80) :
    (closeUnderFolding [(char.toNat, char.toNat)]).containsChar other = true ↔
      lowerAsciiChar char = lowerAsciiChar other := by
  rw [CodeRanges.containsChar, contains_closeUnderFolding, contains_singleton,
    ← Char.toNat_inj, toNat_lowerAsciiChar, toNat_lowerAsciiChar]
  simp only [mem_reachedFolds_iff hascii]
  constructor
  · rintro (hsame | ⟨fold, ⟨hfold, hreaches⟩, hcode⟩)
    · rw [hsame]
    · rw [mem_asciiFolds_iff, Prod.ext_iff, Prod.ext_iff] at hfold
      dsimp only at hfold
      split <;> split <;> omega
  · intro hsame
    by_cases hequal : other.toNat = char.toNat
    · exact Or.inl hequal
    · -- both are the same letter, in different cases
      have hletter : ∃ code, 65 ≤ code ∧ code ≤ 90 ∧
          (char.toNat = code ∨ char.toNat = code + 32) ∧
          (other.toNat = code ∨ other.toNat = code + 32) := by
        split at hsame <;> split at hsame
        · omega
        · exact ⟨char.toNat, by omega⟩
        · exact ⟨other.toNat, by omega⟩
        · omega
      obtain ⟨code, hlow, hhigh, hchar, hcode⟩ := hletter
      have hfold := mem_asciiFolds_iff.mpr (Or.inl ⟨hlow, hhigh, (rfl : (code, code + 32).2 = _)⟩)
      exact Or.inr ⟨_, ⟨hfold, by dsimp only; omega⟩, hcode⟩

/-- A closed set of one ASCII character is small. -/
theorem length_closeUnderFolding_le {char : Char} (hascii : char.toNat < 0x80) :
    (closeUnderFolding [(char.toNat, char.toNat)]).length ≤ 57 := by
  have hreached : (reachedFolds [(char.toNat, char.toNat)]).length ≤ asciiFolds.length := by
    rw [reachedFolds, ← foldPairs_checked, ← List.countP_eq_length_filter,
      ← List.countP_eq_length_filter]
    refine List.countP_mono_left fun fold hfold hreaches => ?_
    have hascii := ((mem_reachedFolds_iff hascii).mp (List.mem_filter.mpr ⟨hfold, hreaches⟩)).1
    rw [← foldPairs_checked] at hascii
    exact (List.mem_filter.mp hascii).2
  have hfew : asciiFolds.length = 28 := by decide
  rw [closeUnderFolding_eq]
  refine (CodeRanges.length_normalize_le _).trans ?_
  rw [List.length_append, List.length_flatMap]
  simp only [List.length_cons, List.length_nil, List.map_const', List.sum_replicate_nat]
  omega

end EdgeGateway.Unicode
