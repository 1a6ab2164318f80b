import EdgeGateway.Proofs.Route.Origin
import EdgeGateway.Proofs.Route.Selection

/-!
# A cache that is ready

Where nothing interrupts a call, no load is under way between two calls, and the
installed slot has routes.  While that slot is young a call gets its routes and
changes nothing, whatever has become of the store.  A call that finds no young
slot leaves one behind if it reaches the store.

With the routes it gets, a request takes the first that applies to it; only the
address among those of its target is left to chance.
-/

namespace EdgeGateway.Route

theorem LoadSlot.isExpired_of_le {slot : LoadSlot} {ttl : Duration}
    {now later : Instant} (hlater : now.nanos ≤ later.nanos)
    (hyoung : slot.isExpired ttl later = false) : slot.isExpired ttl now = false := by
  rw [isExpired, decide_eq_false_iff_not, Instant.since] at hyoung ⊢
  simp only at hyoung ⊢
  omega

namespace Cache

/-- The installed slot. -/
def current? (cache : Cache) : Option LoadSlot :=
  cache.installed.bind fun position => cache.slots[position]?

theorem mem_slots_of_current? {cache : Cache} {slot : LoadSlot}
    (hcurrent : cache.current? = some slot) : slot ∈ cache.slots := by
  obtain ⟨_, -, hslot⟩ := Option.bind_eq_some_iff.mp hcurrent
  exact List.mem_of_getElem? hslot

/-- The installed slot has routes. -/
def Ready (cache : Cache) : Prop :=
  ∀ slot, cache.current? = some slot → ∃ routes, slot.load = .ended (some routes)

/-- A call shares the routes of a young slot, or it loads routes of its own, or it
cannot reach the store. -/
inductive Listing (cache : Cache) (now : Instant) (store : Store.Memory) : Prop where
  | shared (slot : LoadSlot) (routes : List Resolved)
      (hcurrent : cache.current? = some slot)
      (hload : slot.load = .ended (some routes))
      (hlist : cache.list now store = ⟨cache, store, routes, []⟩)
  | loaded (hdead : cache.living? now = none)
      (havailable : store.routesUnavailable = false)
      (hcurrent : (cache.list now store).cache.current? =
        some ⟨now, .ended (some (cache.list now store).routes)⟩)
  | failed (hdead : cache.living? now = none)
      (hunavailable : store.routesUnavailable = true)
      (hcurrent : (cache.list now store).cache.current? = none)

variable {cache : Cache} {now : Instant} {store : Store.Memory}

theorem listing (hready : cache.Ready) (now : Instant) (store : Store.Memory) :
    Listing cache now store := by
  rcases cache.join_cases now with
    ⟨position, slot, hinstalled, hslot, -, hjoin⟩ | ⟨hdead, hjoin⟩
  · have hcurrent : cache.current? = some slot := by
      rw [current?, hinstalled, Option.bind_some, hslot]
    obtain ⟨routes, hload⟩ := hready slot hcurrent
    obtain ⟨created, load⟩ := slot
    obtain rfl : load = .ended (some routes) := hload
    refine .shared _ routes hcurrent rfl ?_
    simp [list, hjoin, collect?, hslot]
  · cases hunavailable : store.routesUnavailable with
    | true =>
        refine .failed hdead hunavailable ?_
        simp [list, hjoin, Store.Memory.readRoutes, Store.Memory.beginLoad,
          hunavailable, finish, endLoad, withFresh, current?]
    | false =>
        refine .loaded hdead hunavailable ?_
        simp [list, hjoin, Store.Memory.readRoutes, Store.Memory.beginLoad,
          hunavailable, finish, endLoad, withFresh, current?, collect?]

theorem living?_ne_none {slot : LoadSlot} (hcurrent : cache.current? = some slot)
    (hyoung : slot.isExpired cache.ttl now = false) : cache.living? now ≠ none := by
  obtain ⟨position, hinstalled, hslot⟩ := Option.bind_eq_some_iff.mp hcurrent
  simp [living?, hinstalled, hslot, hyoung]

/-- Routes that are held are given out, and nothing changes. -/
theorem list_of_young {slot : LoadSlot} {routes : List Resolved}
    (hcurrent : cache.current? = some slot)
    (hload : slot.load = .ended (some routes))
    (hyoung : slot.isExpired cache.ttl now = false) :
    cache.list now store = ⟨cache, store, routes, []⟩ := by
  have hready : cache.Ready := by
    intro other hother
    obtain rfl := Option.some.inj (hcurrent.symm.trans hother)
    exact ⟨routes, hload⟩
  cases listing hready now store with
  | shared other found hother hfound hlist =>
      obtain rfl := Option.some.inj (hcurrent.symm.trans hother)
      obtain rfl : routes = found := by simpa using hload.symm.trans hfound
      exact hlist
  | loaded hdead => exact absurd hdead (living?_ne_none hcurrent hyoung)
  | failed hdead => exact absurd hdead (living?_ne_none hcurrent hyoung)

theorem ready_list (hready : cache.Ready) (now : Instant) (store : Store.Memory) :
    (cache.list now store).cache.Ready := by
  intro slot hslot
  cases listing hready now store with
  | shared _ _ _ _ hlist =>
      rw [hlist] at hslot
      exact hready slot hslot
  | loaded _ _ hcurrent =>
      obtain rfl := Option.some.inj (hcurrent.symm.trans hslot)
      exact ⟨_, rfl⟩
  | failed _ _ hcurrent => simp [hcurrent] at hslot

/-- The routes that a call has got from a store in reach are held afterwards. -/
theorem current?_list (hready : cache.Ready) (now : Instant)
    (havailable : store.routesUnavailable = false) :
    ∃ slot, (cache.list now store).cache.current? = some slot ∧
      slot.load = .ended (some (cache.list now store).routes) := by
  cases listing hready now store with
  | shared slot routes hcurrent hload hlist =>
      rw [hlist]
      exact ⟨slot, hcurrent, hload⟩
  | loaded _ _ hcurrent => exact ⟨_, hcurrent, rfl⟩
  | failed _ hunavailable => simp [havailable] at hunavailable

end Cache

/-! ## The route that is taken -/

theorem MadeFrom.weighty {rows : List Row} {routes : List Resolved}
    (hmade : MadeFrom rows routes) : ∀ route ∈ routes, route.target.Weighty := by
  intro route hroute
  obtain ⟨row, -, -, hresolved⟩ := hmade route hroute
  obtain ⟨-, hresolves⟩ := Resolved.ofRow_ok_iff.mp hresolved
  exact Target.weighty_ofDefinition? (Resolved.ofDefinition_ok hresolves).2

namespace Match

/-- Among routes that lead somewhere a request takes the first that applies. -/
theorem find?_of_weighty {request : Http.Request} {rollBelow : Nat → Nat}
    (hroll : ∀ total, 0 < total → rollBelow total < total) {routes : List Resolved}
    (hweighty : ∀ route ∈ routes, route.target.Weighty) :
    find? request rollBelow routes =
      (routes.find? fun route => route.applies request).bind fun route =>
        (route.target.select rollBelow).map (ofSelection request route) := by
  rw [find?, ← List.head?_filter]
  cases happlying : routes.filter fun route => route.applies request with
  | nil => rfl
  | cons route others =>
      have hmem : route ∈ routes :=
        (List.mem_filter.mp (happlying ▸ List.mem_cons_self)).1
      obtain ⟨selection, hselect, -⟩ :=
        Target.select_of_weighty (hweighty route hmem) hroll
      simp [hselect]

end Match

end EdgeGateway.Route
