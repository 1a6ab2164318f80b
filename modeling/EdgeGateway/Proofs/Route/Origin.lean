import EdgeGateway.Proofs.Route.Slots

/-!
# Where routes come from

Every route that a cache holds or gives was made from a row that the store had
when it was read: the lists of its slots and the list of the last good load are
all there is to give.
-/

namespace EdgeGateway.Route

/-- Every route was made from an enabled row. -/
def MadeFrom (rows : List Row) (routes : List Resolved) : Prop :=
  ∀ route ∈ routes, ∃ row ∈ rows,
    row.enabled = true ∧ Resolved.ofRow row = .ok (some route)

theorem madeFrom_nil (rows : List Row) : MadeFrom rows [] := by simp [MadeFrom]

theorem MadeFrom.mono {rows more : List Row} {routes : List Resolved}
    (hmade : MadeFrom rows routes) (hsubset : rows ⊆ more) : MadeFrom more routes := by
  intro route hroute
  obtain ⟨row, hrow, hresolved⟩ := hmade route hroute
  exact ⟨row, hsubset hrow, hresolved⟩

theorem madeFrom_resolveRows (rows : List Row) :
    MadeFrom rows (resolveRows rows).1 := by
  induction rows with
  | nil => exact madeFrom_nil _
  | cons row rows ih =>
      have hrest : MadeFrom (row :: rows) (resolveRows rows).1 :=
        ih.mono (List.subset_cons_self _ _)
      cases henabled : row.enabled with
      | false => simpa [resolveRows, henabled] using hrest
      | true =>
          cases hresolved : Resolved.ofRow row with
          | error error => simpa [resolveRows, henabled, hresolved] using hrest
          | ok found =>
              cases found with
              | none => simpa [resolveRows, henabled, hresolved] using hrest
              | some route =>
                  have hroutes : (resolveRows (row :: rows)).1 =
                      route :: (resolveRows rows).1 := by
                    simp [resolveRows, henabled, hresolved]
                  rw [hroutes]
                  exact List.forall_mem_cons.mpr
                    ⟨⟨row, List.mem_cons_self, henabled, hresolved⟩, hrest⟩

namespace Cache

/-- All that a cache holds was made from rows. -/
structure HoldsFrom (rows : List Row) (cache : Cache) : Prop where
  slots : ∀ slot ∈ cache.slots, ∀ routes,
    slot.load = .ended (some routes) → MadeFrom rows routes
  lastGood : ∀ routes, cache.lastGood = some routes → MadeFrom rows routes

variable {rows : List Row} {cache : Cache}

theorem HoldsFrom.mono {more : List Row} (hholds : cache.HoldsFrom rows)
    (hsubset : rows ⊆ more) : cache.HoldsFrom more where
  slots slot hslot routes hload := (hholds.slots slot hslot routes hload).mono hsubset
  lastGood routes hroutes := (hholds.lastGood routes hroutes).mono hsubset

theorem HoldsFrom.join (hholds : cache.HoldsFrom rows) (now : Instant) :
    (cache.join now).cache.HoldsFrom rows := by
  rcases cache.join_cases now with ⟨_, _, -, -, -, hjoin⟩ | ⟨-, hjoin⟩
  · rwa [hjoin]
  · rw [hjoin]
    refine ⟨?_, hholds.lastGood⟩
    intro slot hslot routes hload
    rcases List.mem_append.mp hslot with hold | hfresh
    · exact hholds.slots slot hold routes hload
    · obtain rfl := List.mem_singleton.mp hfresh
      simp at hload

theorem HoldsFrom.endLoad (hholds : cache.HoldsFrom rows) (position : Nat)
    (outcome : Option (List Resolved))
    (houtcome : ∀ routes, outcome = some routes → MadeFrom rows routes) :
    (cache.endLoad position outcome).HoldsFrom rows := by
  refine ⟨?_, hholds.lastGood⟩
  intro slot hslot routes hload
  obtain ⟨index, hindex⟩ := List.getElem?_of_mem hslot
  rw [Cache.endLoad, List.getElem?_modify] at hindex
  obtain ⟨old, hold, rfl⟩ := Option.map_eq_some_iff.mp hindex
  split at hload
  next => exact houtcome routes (by simpa using hload)
  next => exact hholds.slots old (List.mem_of_getElem? hold) routes hload

theorem HoldsFrom.finish (hholds : cache.HoldsFrom rows) (position : Nat)
    (store : Store.Memory) (hstore : store.routes ⊆ rows) :
    (cache.finish position store.readRoutes).1.HoldsFrom rows := by
  unfold Store.Memory.readRoutes
  split
  · have hfailed := hholds.endLoad position none (by simp)
    exact ⟨hfailed.slots, hfailed.lastGood⟩
  · have hread : MadeFrom rows
        (resolveRows (store.routes.filter Row.enabled)).1 :=
      (madeFrom_resolveRows _).mono fun row hrow => hstore (List.mem_filter.mp hrow).1
    have hended := hholds.endLoad position (some _) (by rintro routes ⟨⟩; exact hread)
    refine ⟨hended.slots, ?_⟩
    rintro routes ⟨⟩
    exact hread

theorem HoldsFrom.fallback (hholds : cache.HoldsFrom rows) :
    MadeFrom rows cache.fallback.1 := by
  unfold Cache.fallback
  split
  next routes hroutes => exact hholds.lastGood routes hroutes
  next => exact madeFrom_nil _

theorem HoldsFrom.collect (hholds : cache.HoldsFrom rows) (position : Nat) :
    MadeFrom rows ((cache.collect? position).getD cache.fallback).1 := by
  unfold collect?
  split
  next created routes hslot =>
    exact hholds.slots _ (List.mem_of_getElem? hslot) routes rfl
  next => exact hholds.fallback
  next => exact hholds.fallback

theorem HoldsFrom.list (hholds : cache.HoldsFrom rows) (now : Instant)
    (store : Store.Memory) (hstore : store.routes ⊆ rows) :
    (cache.list now store).cache.HoldsFrom rows ∧
      MadeFrom rows (cache.list now store).routes := by
  have hjoined := hholds.join now
  simp only [Cache.list]
  split
  · have hfinished := hjoined.finish (cache.join now).slot store.beginLoad hstore
    exact ⟨hfinished, hfinished.collect _⟩
  · exact ⟨hjoined, hjoined.collect _⟩

theorem store_list (cache : Cache) (now : Instant) (store : Store.Memory) :
    (cache.list now store).store.routes = store.routes := by
  simp only [Cache.list]
  split <;> rfl

end Cache

end EdgeGateway.Route
