import EdgeGateway.Proofs.Route.Selection
import Mathlib.Order.Interval.Finset.Nat

/-!
# Shares of a split

The variants of a split lie side by side on the line of rolls, each as long as
its weight: its share begins where the weights in front of it end.  A roll selects
the variant in whose share it lies, so over all rolls below the total each
variant is selected as often as it has weight.  The total is cut off at the
largest 32-bit number, and then the rolls below it do not reach the last shares,
but all of them lie in some share.
-/

namespace EdgeGateway.Route

/-- What is selected with a variant. -/
def Variant.selection (variant : Variant) : Selection :=
  ⟨variant.uri, some variant.variantId⟩

namespace Target

/-- The weights in front of a position. -/
def weightBefore (variants : List Variant) (position : Nat) : Nat :=
  weightSum (variants.take position)

/-- The first position up to which there is more weight than a roll. -/
def position? (variants : List Variant) (roll : Nat) : Option Nat :=
  (List.range variants.length).find? fun position =>
    roll < weightBefore variants (position + 1)

/-! ## Weights in front of a position -/

theorem weightBefore_cons (variant : Variant) (variants : List Variant)
    (position : Nat) :
    weightBefore (variant :: variants) (position + 1) =
      variant.weight + weightBefore variants position := by
  rw [weightBefore, List.take_succ_cons, weightSum, weightBefore]

theorem weightBefore_succ {variants : List Variant} {position : Nat}
    {variant : Variant} (hvariant : variants[position]? = some variant) :
    weightBefore variants (position + 1) =
      weightBefore variants position + variant.weight := by
  induction variants generalizing position with
  | nil => simp at hvariant
  | cons first variants ih =>
      cases position with
      | zero =>
          have hfirst : first = variant := by simpa using hvariant
          simp [weightBefore, weightSum, hfirst]
      | succ position =>
          have hrest : variants[position]? = some variant := by
            simpa using hvariant
          rw [weightBefore_cons, weightBefore_cons, ih hrest, Nat.add_assoc]

theorem weightBefore_length (variants : List Variant) :
    weightBefore variants variants.length = weightSum variants := by
  rw [weightBefore, List.take_length]

theorem weightBefore_mono (variants : List Variant) :
    Monotone (weightBefore variants) := by
  apply monotone_nat_of_le_succ
  intro position
  cases hvariant : variants[position]? with
  | none =>
      have hlength : variants.length ≤ position :=
        List.getElem?_eq_none_iff.mp hvariant
      rw [weightBefore, weightBefore, List.take_of_length_le hlength,
        List.take_of_length_le (Nat.le_succ_of_le hlength)]
  | some variant =>
      rw [weightBefore_succ hvariant]
      exact Nat.le_add_right _ _

/-! ## The position of a roll -/

/-- The weights of the variants that were passed count for the rest. -/
theorem pick_eq (roll before : Nat) (variants : List Variant) :
    pick roll before variants =
      ((List.range variants.length).find? fun position =>
        roll < before + weightBefore variants (position + 1)).bind
          fun position => variants[position]?.map Variant.selection := by
  induction variants generalizing before with
  | nil => rfl
  | cons variant variants ih =>
      have hfirst : before + weightBefore (variant :: variants) (0 + 1) =
          before + variant.weight := by
        rw [weightBefore_cons]
        rfl
      rw [pick, List.length_cons, List.range_succ_eq_map, List.find?_cons,
        List.find?_map, hfirst]
      by_cases hroll : roll < before + variant.weight
      · simp [hroll, Variant.selection]
      · rw [if_neg hroll, ih]
        simp only [hroll, decide_false, Option.bind_map, Function.comp_def,
          Nat.succ_eq_add_one, weightBefore_cons, List.getElem?_cons_succ,
          Nat.add_assoc]

/-- The search selects the variant at the position of the roll. -/
theorem selectWith_weighted (variants : List Variant) (roll : Nat) :
    (weighted variants).selectWith roll =
      (position? variants roll).bind fun position =>
        variants[position]?.map Variant.selection := by
  rw [selectWith, pick_eq, position?]
  simp only [Nat.zero_add]

/-- A roll has the position in whose share it lies. -/
theorem position?_eq_some_iff {variants : List Variant} {position : Nat}
    {variant : Variant} (hvariant : variants[position]? = some variant)
    (roll : Nat) :
    position? variants roll = some position ↔
      weightBefore variants position ≤ roll ∧
        roll < weightBefore variants position + variant.weight := by
  have hlength : position < variants.length :=
    (List.getElem?_eq_some_iff.mp hvariant).1
  rw [position?, List.find?_range_eq_some, ← weightBefore_succ hvariant]
  simp only [decide_eq_true_eq, List.mem_range, Bool.not_eq_true', decide_eq_false_iff_not,
    Nat.not_lt]
  constructor
  · rintro ⟨hroll, -, hbefore⟩
    refine ⟨?_, hroll⟩
    cases position with
    | zero => exact Nat.zero_le _
    | succ earlier => exact hbefore earlier (Nat.lt_succ_self earlier)
  · rintro ⟨hbefore, hroll⟩
    refine ⟨hroll, hlength, ?_⟩
    intro earlier hearlier
    exact (weightBefore_mono variants hearlier).trans hbefore

theorem position?_eq_none_iff (variants : List Variant) (roll : Nat) :
    position? variants roll = none ↔ weightSum variants ≤ roll := by
  rw [position?, List.find?_eq_none, ← weightBefore_length]
  simp only [List.mem_range, decide_eq_true_eq, Nat.not_lt]
  constructor
  · intro hbelow
    cases hlength : variants.length with
    | zero => exact Nat.zero_le _
    | succ last =>
        apply hbelow
        rw [hlength]
        exact Nat.lt_succ_self last
  · intro hroll position hposition
    exact (weightBefore_mono variants hposition).trans hroll

theorem selectWith_eq_none_iff (variants : List Variant) (roll : Nat) :
    (weighted variants).selectWith roll = none ↔ weightSum variants ≤ roll := by
  rw [selectWith_weighted, ← position?_eq_none_iff]
  cases hposition : position? variants roll with
  | none => simp
  | some position =>
      have hlength : position < variants.length :=
        List.mem_range.mp (List.mem_of_find?_eq_some hposition)
      simp [List.getElem?_eq_getElem hlength]

/-- Below the weight of all variants each is selected as often as it has weight. -/
theorem card_rolls {variants : List Variant} {position : Nat} {variant : Variant}
    (hvariant : variants[position]? = some variant) :
    ((Finset.range (weightSum variants)).filter fun roll =>
      position? variants roll = some position).card = variant.weight := by
  let first := weightBefore variants position
  have hshare : ((Finset.range (weightSum variants)).filter fun roll =>
      position? variants roll = some position) =
        Finset.Ico first (first + variant.weight) := by
    ext roll
    rw [Finset.mem_filter, Finset.mem_range, Finset.mem_Ico,
      position?_eq_some_iff hvariant]
    apply and_iff_right_of_imp
    intro hroll
    calc roll
        < first + variant.weight := hroll.2
      _ = weightBefore variants (position + 1) := (weightBefore_succ hvariant).symm
      _ ≤ weightBefore variants variants.length :=
          weightBefore_mono variants (List.getElem?_eq_some_iff.mp hvariant).1
      _ = weightSum variants := weightBefore_length variants
  rw [hshare, Nat.card_Ico, Nat.add_sub_cancel_left]

theorem select_eq_none_iff (variants : List Variant) {rollBelow : Nat → Nat}
    (hroll : ∀ total, 0 < total → rollBelow total < total) :
    (weighted variants).select rollBelow = none ↔
      (weighted variants).totalWeight = 0 := by
  simp only [select]
  split
  next hzero => simp [hzero]
  next hsome =>
    rw [selectWith_eq_none_iff, iff_false_right hsome, Nat.not_le]
    calc rollBelow (weighted variants).totalWeight
        < (weighted variants).totalWeight :=
          hroll _ (Nat.pos_of_ne_zero hsome)
      _ ≤ weightSum variants := by
          rw [totalWeight_weighted]
          exact Nat.min_le_right _ _

/-- A roll selects the variant at its position, which is the one in whose share it
lies.  If the total is not cut off, the rolls that select nothing are those from
the total on, and each variant has as many rolls below the total as it has weight.
If it is cut off, every roll below it selects a variant.  A source of rolls below
the total selects nothing only if there is no weight. -/
theorem variants_selected_by_weight (variants : List Variant) :
    let split := weighted variants
    (∀ roll, split.selectWith roll =
      (position? variants roll).bind fun position =>
        variants[position]?.map Variant.selection) ∧
    (∀ position variant, variants[position]? = some variant →
      ∀ roll, position? variants roll = some position ↔
        weightBefore variants position ≤ roll ∧
          roll < weightBefore variants position + variant.weight) ∧
    (weightSum variants ≤ Text.limit32 →
      (∀ roll, split.selectWith roll = none ↔ split.totalWeight ≤ roll) ∧
      ∀ position variant, variants[position]? = some variant →
        ((Finset.range split.totalWeight).filter fun roll =>
          position? variants roll = some position).card = variant.weight) ∧
    (Text.limit32 < weightSum variants →
      split.totalWeight = Text.limit32 ∧
      ∀ roll < split.totalWeight, split.selectWith roll ≠ none) ∧
    ∀ rollBelow : Nat → Nat, (∀ total, 0 < total → rollBelow total < total) →
      (split.select rollBelow = none ↔ split.totalWeight = 0) := by
  intro split
  have htotal : split.totalWeight = min Text.limit32 (weightSum variants) :=
    totalWeight_weighted variants
  refine ⟨selectWith_weighted variants, ?_, ?_, ?_, ?_⟩
  · intro position variant hvariant
    exact position?_eq_some_iff hvariant
  · intro hfits
    rw [htotal, Nat.min_eq_right hfits]
    exact ⟨selectWith_eq_none_iff variants, fun _ _ => card_rolls⟩
  · intro hexceeds
    rw [htotal, Nat.min_eq_left hexceeds.le]
    refine ⟨rfl, ?_⟩
    intro roll hroll hnone
    have hpast : weightSum variants ≤ roll :=
      (selectWith_eq_none_iff variants roll).mp hnone
    exact Nat.lt_asymm hexceeds (hpast.trans_lt hroll)
  · intro rollBelow hroll
    exact select_eq_none_iff variants hroll

/-- A split in which one variant stands twice, and one has no weight. -/
def twinned : List Variant :=
  [⟨"stable", 2, "http://stable:80"⟩, ⟨"off", 0, "http://off:80"⟩,
    ⟨"stable", 1, "http://stable:80"⟩, ⟨"canary", 1, "http://canary:80"⟩]

/-- A split whose weights exceed the largest 32-bit number. -/
def crowded : List Variant :=
  [⟨"stable", 4294967295, "http://stable:80"⟩, ⟨"canary", 5, "http://canary:80"⟩]

theorem twins_selected_by_weight :
    twinned[2]? = some ⟨"stable", 1, "http://stable:80"⟩ ∧
      weightSum twinned ≤ Text.limit32 ∧
      position? twinned 2 = some 2 ∧
      ((Finset.range (weighted twinned).totalWeight).filter fun roll =>
        position? twinned roll = some 2).card = 1 ∧
      (weighted twinned).selectWith 4 = none ∧
      Text.limit32 < weightSum crowded ∧
      (weighted crowded).totalWeight = 4294967295 ∧
      (weighted crowded).selectWith 4294967294 ≠ none ∧
      (weighted crowded).select (· - 1) ≠ none := by
  have htwin : twinned[2]? = some ⟨"stable", 1, "http://stable:80"⟩ := rfl
  have hfits : weightSum twinned ≤ Text.limit32 := by decide
  have hexceeds : Text.limit32 < weightSum crowded := by decide
  have hroll : ∀ total, 0 < total → total - 1 < total :=
    fun total hpositive => Nat.sub_lt hpositive Nat.one_pos
  obtain ⟨-, hshares, hexact, -⟩ := variants_selected_by_weight twinned
  obtain ⟨hnone, hcount⟩ := hexact hfits
  obtain ⟨-, -, -, hcut, hselect⟩ := variants_selected_by_weight crowded
  obtain ⟨htotal, hall⟩ := hcut hexceeds
  refine ⟨htwin, hfits, (hshares 2 _ htwin 2).mpr (by decide), hcount 2 _ htwin,
    (hnone 4).mpr (by decide), hexceeds, htotal, ?_, ?_⟩
  · apply hall
    rw [htotal]
    decide
  · rw [Ne, hselect (· - 1) hroll, htotal]
    decide

end Target

end EdgeGateway.Route
