import EdgeGateway.Observe.Counter
import Mathlib.Data.List.Count
import Mathlib.Data.String.Basic

/-!
# Totals by name

Counters are shown as a list of totals under exported names.  The total of a counter
is the number of times that it was increased: the list has each name once, because
it is ascending, and no two counters share a name.
-/

namespace EdgeGateway.Observe

/-! ## Adding to totals -/

/-- What a list of totals says of a name. -/
def totalOf (totals : List (String × Nat)) (name : String) : Nat :=
  (totals.lookup name).getD 0

def Ascending (totals : List (String × Nat)) : Prop :=
  totals.Pairwise fun first second => first.1 < second.1

theorem totalOf_cons (known : String) (total : Nat) (totals : List (String × Nat))
    (name : String) :
    totalOf ((known, total) :: totals) name =
      if name = known then total else totalOf totals name := by
  by_cases hsame : name = known
  · subst hsame
    simp [totalOf]
  · have hbeq : (name == known) = false := by simpa using hsame
    simp [totalOf, List.lookup_cons, hbeq, hsame]

theorem totalOf_of_absent {totals : List (String × Nat)} {name : String}
    (habsent : ∀ entry ∈ totals, entry.1 ≠ name) : totalOf totals name = 0 := by
  induction totals with
  | nil => rfl
  | cons entry totals ih =>
      obtain ⟨known, total⟩ := entry
      obtain ⟨hknown, hrest⟩ := List.forall_mem_cons.mp habsent
      rw [totalOf_cons, if_neg (Ne.symm hknown), ih hrest]

theorem mem_addTotal {name : String} {totals : List (String × Nat)}
    {entry : String × Nat} (hentry : entry ∈ addTotal name totals) :
    entry.1 = name ∨ ∃ other ∈ totals, other.1 = entry.1 := by
  induction totals with
  | nil =>
      obtain rfl : entry = (name, 1) := by simpa [addTotal] using hentry
      exact Or.inl rfl
  | cons first totals ih =>
      obtain ⟨known, total⟩ := first
      have hlater : entry ∈ totals → ∃ other ∈ (known, total) :: totals,
          other.1 = entry.1 := fun h => ⟨entry, List.mem_cons_of_mem _ h, rfl⟩
      unfold addTotal at hentry
      split at hentry
      next =>
        rcases List.mem_cons.mp hentry with rfl | h
        · exact Or.inr ⟨(known, total), List.mem_cons_self, rfl⟩
        · exact Or.inr (hlater h)
      next =>
        split at hentry
        next =>
          rcases List.mem_cons.mp hentry with rfl | h
          · exact Or.inl rfl
          · exact Or.inr ⟨entry, h, rfl⟩
        next =>
          rcases List.mem_cons.mp hentry with rfl | h
          · exact Or.inr ⟨(known, total), List.mem_cons_self, rfl⟩
          · rcases ih h with hname | ⟨other, hother, hsame⟩
            · exact Or.inl hname
            · exact Or.inr ⟨other, List.mem_cons_of_mem _ hother, hsame⟩

theorem ascending_addTotal {totals : List (String × Nat)} (hascending : Ascending totals)
    (name : String) : Ascending (addTotal name totals) := by
  induction totals with
  | nil => exact List.pairwise_singleton _ _
  | cons first totals ih =>
      obtain ⟨known, total⟩ := first
      obtain ⟨hknown, hrest⟩ := List.pairwise_cons.mp hascending
      unfold addTotal
      split
      next => exact List.pairwise_cons.mpr ⟨hknown, hrest⟩
      next hother =>
        split
        next hless =>
          refine List.pairwise_cons.mpr ⟨List.forall_mem_cons.mpr ⟨hless, ?_⟩, hascending⟩
          exact fun entry hentry => lt_trans hless (hknown entry hentry)
        next hnotless =>
          refine List.pairwise_cons.mpr ⟨fun entry hentry => ?_, ih hrest⟩
          rcases mem_addTotal hentry with hname | ⟨other, hmem, hsame⟩
          · rw [hname]
            exact lt_of_le_of_ne (not_lt.mp hnotless) (Ne.symm hother)
          · rw [← hsame]
            exact hknown other hmem

/-- The total of one name grows by one and no other total changes. -/
theorem totalOf_addTotal {totals : List (String × Nat)} (hascending : Ascending totals)
    (name other : String) :
    totalOf (addTotal name totals) other =
      totalOf totals other + if other = name then 1 else 0 := by
  induction totals with
  | nil =>
      rw [addTotal, totalOf_cons]
      by_cases hsame : other = name <;> simp [totalOf, hsame]
  | cons first totals ih =>
      obtain ⟨known, total⟩ := first
      obtain ⟨hknown, hrest⟩ := List.pairwise_cons.mp hascending
      unfold addTotal
      split
      next hsame =>
        subst hsame
        rw [totalOf_cons, totalOf_cons]
        by_cases h : other = name <;> simp [h]
      next hother =>
        split
        next hless =>
          -- all names in the list come after the new one
          have habsent : totalOf ((known, total) :: totals) name = 0 := by
            refine totalOf_of_absent (List.forall_mem_cons.mpr ⟨Ne.symm hother, ?_⟩)
            exact fun entry hentry => (lt_trans hless (hknown entry hentry)).ne'
          rw [totalOf_cons]
          by_cases h : other = name
          · subst h
            rw [if_pos rfl, if_pos rfl, habsent]
          · rw [if_neg h, if_neg h, Nat.add_zero]
        next =>
          rw [totalOf_cons, totalOf_cons, ih hrest]
          by_cases h : other = known
          · subst h
            rw [if_pos rfl, if_pos rfl, if_neg (Ne.symm hother), Nat.add_zero]
          · rw [if_neg h, if_neg h]

theorem totalOf_totals (counted : List Counter) (name : String) :
    totalOf (totals counted) name = (counted.map Counter.name).count name := by
  have hfold : ∀ start, Ascending start →
      totalOf (counted.foldl (fun totals counter => addTotal counter.name totals) start)
          name =
        totalOf start name + (counted.map Counter.name).count name := by
    induction counted with
    | nil => simp
    | cons counter counted ih =>
        intro start hascending
        rw [List.foldl_cons, ih _ (ascending_addTotal hascending counter.name),
          totalOf_addTotal hascending, List.map_cons, List.count_cons]
        by_cases hsame : name = counter.name
        · simp only [hsame, if_true, beq_self_eq_true]
          omega
        · simp [hsame, Ne.symm hsame]
  rw [totals, hfold [] List.Pairwise.nil]
  simp [totalOf]

/-! ## Names -/

theorem LoadOutcome.label_injective : Function.Injective LoadOutcome.label := by
  intro left right hlabel
  cases left <;> cases right <;> simp [label] at hlabel ⊢

theorem SkipReason.label_injective : Function.Injective SkipReason.label := by
  intro left right hlabel
  cases left <;> cases right <;> simp [label] at hlabel ⊢

theorem FailoverTrigger.label_injective : Function.Injective FailoverTrigger.label := by
  intro left right hlabel
  cases left <;> cases right <;> simp [label] at hlabel ⊢

theorem PreferenceResult.label_injective : Function.Injective PreferenceResult.label := by
  intro left right hlabel
  cases left <;> cases right <;> simp [label] at hlabel ⊢

namespace Counter

/-- The part of a name before its label. -/
def series : Counter → String
  | routeLoads _ => "control_plane_route_loads_total"
  | routesSkipped _ => "control_plane_routes_skipped_total"
  | routeCacheInvalidations => "control_plane_route_cache_invalidations_total"
  | regionFailures _ => "control_plane_region_failures_total"
  | regionFailovers _ => "control_plane_region_failovers_total"
  | preflightCache _ => "control_plane_preflight_cache_total"
  | preflightRejections => "control_plane_preflight_rejections_total"
  | versionPreference _ => "control_plane_version_preference_total"
  | backendRequests _ => "control_plane_upstream_requests_total"

theorem takeWhile_name (counter : Counter) :
    counter.name.toList.takeWhile (· ≠ '\x7b') = counter.series.toList := by
  have hlabelled : ∀ base label value : String, '\x7b' ∉ base.toList →
      (name.labelled base label value).toList.takeWhile (· ≠ '\x7b') = base.toList := by
    intro base label value hbase
    have hkept : ∀ char ∈ base.toList, decide (char ≠ '\x7b') = true := by
      intro char hchar
      exact decide_eq_true fun h => hbase (h ▸ hchar)
    simp only [name.labelled, String.toList_append, List.append_assoc]
    rw [List.takeWhile_append_of_pos hkept]
    simp
  cases counter with
  | routeCacheInvalidations | preflightRejections => rfl
  | _ => exact hlabelled _ _ _ (by decide)

theorem labelled_injective (base label : String) :
    Function.Injective (name.labelled base label) := by
  intro left right hsame
  simpa [name.labelled, ← String.toList_inj] using hsame

theorem hit_injective :
    Function.Injective fun hit : Bool => if hit then "hit" else "miss" := by
  intro left right hhit
  cases left <;> cases right <;> simp at hhit ⊢

/-- No two counters share a name. -/
theorem name_injective : Function.Injective Counter.name := by
  intro left right hname
  have hseries : left.series = right.series := by
    rw [← String.toList_inj, ← takeWhile_name, hname, takeWhile_name]
  cases left with
  | routeCacheInvalidations | preflightRejections =>
      cases right <;> simp [series] at hseries ⊢
  | routeLoads left =>
      cases right with
      | routeLoads right =>
          exact congrArg _ (LoadOutcome.label_injective (labelled_injective _ _ hname))
      | _ => simp [series] at hseries
  | routesSkipped left =>
      cases right with
      | routesSkipped right =>
          exact congrArg _ (SkipReason.label_injective (labelled_injective _ _ hname))
      | _ => simp [series] at hseries
  | regionFailures left =>
      cases right with
      | regionFailures right => exact congrArg _ (labelled_injective _ _ hname)
      | _ => simp [series] at hseries
  | regionFailovers left =>
      cases right with
      | regionFailovers right =>
          exact congrArg _ (FailoverTrigger.label_injective (labelled_injective _ _ hname))
      | _ => simp [series] at hseries
  | preflightCache left =>
      cases right with
      | preflightCache right => exact congrArg _ (hit_injective (labelled_injective _ _ hname))
      | _ => simp [series] at hseries
  | versionPreference left =>
      cases right with
      | versionPreference right =>
          exact congrArg _ (PreferenceResult.label_injective (labelled_injective _ _ hname))
      | _ => simp [series] at hseries
  | backendRequests left =>
      cases right with
      | backendRequests right => exact congrArg _ (labelled_injective _ _ hname)
      | _ => simp [series] at hseries

end Counter

/-- How often a counter was increased, by its exported name. -/
def increase (counted : List Counter) (counter : Counter) : Nat :=
  totalOf (totals counted) counter.name

theorem increase_eq (counted : List Counter) (counter : Counter) :
    increase counted counter = counted.count counter := by
  rw [increase, totalOf_totals, List.count_map_of_injective _ _ Counter.name_injective]

end EdgeGateway.Observe
