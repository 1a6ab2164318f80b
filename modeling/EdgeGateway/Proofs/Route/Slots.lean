import EdgeGateway.Route.Calls
import Mathlib.Data.List.Induction

/-!
# Slots and callers over time

What one step does to the slots and the callers of a cache, and what a whole run
keeps: a slot keeps the time of its installation and the outcome of its load, a
caller keeps its slot and its routes, and the clock does not go back.
-/

namespace EdgeGateway.Route

open Observe (Counter)

theorem LoadSlot.lt_of_not_expired {slot : LoadSlot} {ttl : Duration}
    {now : Instant} (hyoung : slot.isExpired ttl now = false) :
    now.nanos < slot.createdAt.nanos + ttl.nanos := by
  have : ¬ ttl.nanos ≤ now.nanos - slot.createdAt.nanos :=
    of_decide_eq_false hyoung
  omega

theorem LoadSlot.isExpired_iff {slot : LoadSlot} {ttl : Duration} {now : Instant}
    (hcreated : slot.createdAt.nanos ≤ now.nanos) :
    slot.isExpired ttl now = true ↔
      slot.createdAt.nanos + ttl.nanos ≤ now.nanos := by
  rw [isExpired, decide_eq_true_iff, Instant.since]
  simp only
  omega

namespace Cache

/-- The cache after a caller has installed a slot. -/
def withFresh (now : Instant) (cache : Cache) : Cache :=
  { cache with
    slots := cache.slots ++ [⟨now, .running⟩]
    installed := some cache.slots.length }

/-- A caller either shares the living slot or installs a new one. -/
theorem join_cases (now : Instant) (cache : Cache) :
    (∃ position slot, cache.installed = some position ∧
      cache.slots[position]? = some slot ∧
      slot.isExpired cache.ttl now = false ∧
      cache.join now = ⟨cache, position, false⟩) ∨
    (cache.living? now = none ∧
      cache.join now = ⟨cache.withFresh now, cache.slots.length, true⟩) := by
  cases hliving : cache.living? now with
  | none => exact Or.inr ⟨rfl, by simp [join, hliving, withFresh]⟩
  | some position =>
      left
      simp only [living?, Option.bind_eq_bind, Option.bind_eq_some_iff] at hliving
      obtain ⟨installed, hinstalled, slot, hslot, hfresh⟩ := hliving
      split at hfresh
      next => simp at hfresh
      next hyoung =>
        obtain rfl : installed = position := by simpa using hfresh
        refine ⟨installed, slot, hinstalled, hslot, by simpa using hyoung, ?_⟩
        simp [join, living?, hinstalled, hslot, hyoung]

/-- The cache after a load has succeeded. -/
def withRoutes (cache : Cache) (slot : Nat) (routes : List Resolved) : Cache :=
  { cache.endLoad slot (some routes) with lastGood := some routes }

/-- The cache after a load has failed. -/
def withFailure (cache : Cache) (slot : Nat) : Cache :=
  { cache.endLoad slot none with
    installed := if cache.installed = some slot then none else cache.installed }

theorem finish_ok (cache : Cache) (slot : Nat) (rows : List Row) :
    (cache.finish slot (.ok rows)).1 =
      cache.withRoutes slot (resolveRows rows).1 := rfl

theorem finish_error (cache : Cache) (slot : Nat) (error : Store.Error) :
    (cache.finish slot (.error error)).1 = cache.withFailure slot := rfl

theorem getElem?_endLoad (cache : Cache) (slot position : Nat)
    (routes : Option (List Resolved)) :
    (cache.endLoad slot routes).slots[position]? =
      if slot = position then
        cache.slots[position]?.map fun old => { old with load := .ended routes }
      else cache.slots[position]? := by
  by_cases hsame : slot = position
  · simp [endLoad, hsame]
  · simp [endLoad, hsame, List.getElem?_modify_ne]

end Cache

namespace Calls

/-- A call that begins waits on a slot, and loads it if the slot is new. -/
theorem arrive_cases (calls : Calls) :
    (∃ position slot, calls.cache.installed = some position ∧
      calls.cache.slots[position]? = some slot ∧
      slot.isExpired calls.cache.ttl calls.now = false ∧
      calls.arrive =
        { calls with callers := calls.callers ++ [⟨position, none⟩] }) ∨
    (calls.cache.living? calls.now = none ∧
      calls.arrive =
        { calls with
          cache := calls.cache.withFresh calls.now
          store := calls.store.beginLoad
          loading := calls.loading ++ [calls.cache.slots.length]
          callers := calls.callers ++ [⟨calls.cache.slots.length, none⟩] }) := by
  rcases calls.cache.join_cases calls.now with
    ⟨position, slot, hinstalled, hslot, hyoung, hjoin⟩ | ⟨hdead, hjoin⟩
  · exact Or.inl ⟨position, slot, hinstalled, hslot, hyoung, by
      simp [arrive, hjoin]⟩
  · exact Or.inr ⟨hdead, by simp [arrive, hjoin]⟩

theorem arrive_of_dead {calls : Calls}
    (hdead : calls.cache.living? calls.now = none) :
    calls.arrive =
      { calls with
        cache := calls.cache.withFresh calls.now
        store := calls.store.beginLoad
        loading := calls.loading ++ [calls.cache.slots.length]
        callers := calls.callers ++ [⟨calls.cache.slots.length, none⟩] } := by
  rcases calls.arrive_cases with ⟨_, _, hinstalled, hslot, hyoung, -⟩ | ⟨-, h⟩
  · simp [Cache.living?, hinstalled, hslot, hyoung] at hdead
  · exact h

theorem callers_arrive (calls : Calls) :
    ∃ slot, calls.arrive.callers = calls.callers ++ [⟨slot, none⟩] := by
  rcases calls.arrive_cases with ⟨slot, _, -, -, -, h⟩ | ⟨-, h⟩
  · exact ⟨slot, by rw [h]⟩
  · exact ⟨calls.cache.slots.length, by rw [h]⟩

/-- A load that does not run cannot end; one that runs ends with the rows that
the store has now, or fails. -/
theorem finish_cases (slot : Nat) (calls : Calls) :
    (slot ∉ calls.loading ∧ calls.finish slot = calls) ∨
    (slot ∈ calls.loading ∧
      ((∃ rows, calls.store.readRoutes = .ok rows ∧
        (calls.finish slot).cache =
          calls.cache.withRoutes slot (resolveRows rows).1) ∨
      (∃ error, calls.store.readRoutes = .error error ∧
        (calls.finish slot).cache = calls.cache.withFailure slot))) := by
  by_cases hloading : slot ∈ calls.loading
  · refine Or.inr ⟨hloading, ?_⟩
    cases hread : calls.store.readRoutes with
    | ok rows => exact Or.inl ⟨rows, rfl, by simp [finish, hloading, hread, Cache.finish_ok]⟩
    | error error =>
        exact Or.inr ⟨error, rfl, by simp [finish, hloading, hread, Cache.finish_error]⟩
  · exact Or.inl ⟨hloading, by simp [finish, hloading]⟩

theorem loading_finish (slot : Nat) (calls : Calls) :
    (calls.finish slot).loading = calls.loading.filter (· ≠ slot) := by
  by_cases hloading : slot ∈ calls.loading
  · simp [finish, hloading]
  · have hsame : calls.loading.filter (· ≠ slot) = calls.loading := by
      rw [List.filter_eq_self]
      intro other hother
      simpa using ne_of_mem_of_not_mem hother hloading
    rw [hsame]
    simp [finish, hloading]

@[simp]
theorem now_finish (slot : Nat) (calls : Calls) :
    (calls.finish slot).now = calls.now := by
  unfold finish
  split <;> rfl

@[simp]
theorem store_finish (slot : Nat) (calls : Calls) :
    (calls.finish slot).store = calls.store := by
  unfold finish
  split <;> rfl

@[simp]
theorem callers_finish (slot : Nat) (calls : Calls) :
    (calls.finish slot).callers = calls.callers := by
  unfold finish
  split <;> rfl

/-- How a load ends that ends now. -/
def outcomeNow (calls : Calls) : Option (List Resolved) :=
  match calls.store.readRoutes with
  | .ok rows => some (resolveRows rows).1
  | .error _ => none

theorem outcomeNow_eq_some_iff {calls : Calls} {routes : List Resolved} :
    calls.outcomeNow = some routes ↔
      ∃ rows, calls.store.readRoutes = .ok rows ∧
        routes = (resolveRows rows).1 := by
  unfold outcomeNow
  cases calls.store.readRoutes with
  | ok rows => simp [eq_comm]
  | error error => simp

theorem getElem?_finish (calls : Calls) (slot position : Nat) :
    (calls.finish slot).cache.slots[position]? =
      if slot ∈ calls.loading ∧ slot = position then
        calls.cache.slots[position]?.map fun old =>
          { old with load := .ended calls.outcomeNow }
      else calls.cache.slots[position]? := by
  rcases calls.finish_cases slot with
    ⟨hidle, h⟩ | ⟨hloading, ⟨rows, hread, h⟩ | ⟨error, hread, h⟩⟩
  · rw [h, if_neg fun hboth => hidle hboth.1]
  · simp only [h, Cache.withRoutes, Cache.getElem?_endLoad, hloading, true_and,
      outcomeNow, hread]
  · simp only [h, Cache.withFailure, Cache.getElem?_endLoad, hloading, true_and,
      outcomeNow, hread]

theorem length_slots_finish (calls : Calls) (slot : Nat) :
    (calls.finish slot).cache.slots.length = calls.cache.slots.length := by
  rcases calls.finish_cases slot with ⟨-, h⟩ | ⟨-, ⟨rows, -, h⟩ | ⟨error, -, h⟩⟩
  · rw [h]
  · rw [h, Cache.withRoutes, Cache.endLoad, List.length_modify]
  · rw [h, Cache.withFailure, Cache.endLoad, List.length_modify]

theorem installed_finish {calls : Calls} {slot position : Nat}
    (hinstalled : (calls.finish slot).cache.installed = some position) :
    calls.cache.installed = some position := by
  rcases calls.finish_cases slot with ⟨-, h⟩ | ⟨-, ⟨rows, -, h⟩ | ⟨error, -, h⟩⟩
  · rwa [h] at hinstalled
  · rw [h] at hinstalled
    exact hinstalled
  · rw [h, Cache.withFailure] at hinstalled
    simp only at hinstalled
    split at hinstalled
    next => simp at hinstalled
    next => exact hinstalled

/-- A load that fails removes no slot but its own. -/
theorem installed_finish_of_ne {calls : Calls} {slot : Nat}
    (hother : calls.cache.installed ≠ some slot) :
    (calls.finish slot).cache.installed = calls.cache.installed := by
  rcases calls.finish_cases slot with ⟨-, h⟩ | ⟨-, ⟨rows, -, h⟩ | ⟨error, -, h⟩⟩
  · rw [h]
  · rw [h]
    rfl
  · rw [h]
    exact if_neg hother

/-- A load that fails leaves its slot not installed. -/
theorem installed_finish_ne_of_failed {calls : Calls} {slot : Nat}
    (hloading : slot ∈ calls.loading) (hfailed : calls.outcomeNow = none) :
    (calls.finish slot).cache.installed ≠ some slot := by
  rcases calls.finish_cases slot with
    ⟨hidle, -⟩ | ⟨-, ⟨rows, hread, -⟩ | ⟨error, -, h⟩⟩
  · exact absurd hloading hidle
  · simp [outcomeNow, hread] at hfailed
  · rw [h, Cache.withFailure]
    simp only
    split
    next => simp
    next hother => exact hother

/-- A caller is served once, when the load of its slot has ended. -/
theorem collect_cases (position : Nat) (calls : Calls) :
    calls.collect position = calls ∨
    ∃ slot routes counted, calls.callers[position]? = some ⟨slot, none⟩ ∧
      calls.cache.collect? slot = some (routes, counted) ∧
      calls.collect position =
        { calls with
          callers := calls.callers.set position ⟨slot, some routes⟩
          counted := calls.counted ++ counted } := by
  unfold collect
  split
  next slot hcaller =>
    split
    next routes counted hcollect =>
      exact Or.inr ⟨slot, routes, counted, hcaller, hcollect, rfl⟩
    next => exact Or.inl rfl
  next => exact Or.inl rfl

@[simp]
theorem cache_collect (calls : Calls) (position : Nat) :
    (calls.collect position).cache = calls.cache := by
  rcases calls.collect_cases position with h | ⟨_, _, _, -, -, h⟩ <;> rw [h]

@[simp]
theorem now_collect (calls : Calls) (position : Nat) :
    (calls.collect position).now = calls.now := by
  rcases calls.collect_cases position with h | ⟨_, _, _, -, -, h⟩ <;> rw [h]

@[simp]
theorem store_collect (calls : Calls) (position : Nat) :
    (calls.collect position).store = calls.store := by
  rcases calls.collect_cases position with h | ⟨_, _, _, -, -, h⟩ <;> rw [h]

@[simp]
theorem loading_collect (calls : Calls) (position : Nat) :
    (calls.collect position).loading = calls.loading := by
  rcases calls.collect_cases position with h | ⟨_, _, _, -, -, h⟩ <;> rw [h]

theorem length_callers_collect (calls : Calls) (position : Nat) :
    (calls.collect position).callers.length = calls.callers.length := by
  rcases calls.collect_cases position with h | ⟨_, _, _, -, -, h⟩
  · rw [h]
  · rw [h, List.length_set]

end Calls

/-! ## What later states keep -/

/-- A list goes on as another: every item is still there, as something that it
may have become, and items may have been added. -/
def GoesOnAs {Item : Type} (Becomes : Item → Item → Prop)
    (past later : List Item) : Prop :=
  ∀ (position : Nat) (item : Item), past[position]? = some item →
    ∃ kept, later[position]? = some kept ∧ Becomes item kept

namespace GoesOnAs

variable {Item : Type} {Becomes : Item → Item → Prop}

theorem refl (hrefl : ∀ item, Becomes item item) (items : List Item) :
    GoesOnAs Becomes items items :=
  fun _ item hitem => ⟨item, hitem, hrefl item⟩

theorem trans (htrans : ∀ {first second third : Item}, Becomes first second →
      Becomes second third → Becomes first third)
    {first second third : List Item} (hfirst : GoesOnAs Becomes first second)
    (hsecond : GoesOnAs Becomes second third) :
    GoesOnAs Becomes first third := by
  intro position item hitem
  obtain ⟨middle, hmiddle, hbecomes⟩ := hfirst position item hitem
  obtain ⟨last, hlast, hbecomes'⟩ := hsecond position middle hmiddle
  exact ⟨last, hlast, htrans hbecomes hbecomes'⟩

theorem append (hrefl : ∀ item, Becomes item item) (items more : List Item) :
    GoesOnAs Becomes items (items ++ more) := by
  intro position item hitem
  have hlt : position < items.length := (List.getElem?_eq_some_iff.mp hitem).1
  exact ⟨item, by rw [List.getElem?_append_left hlt, hitem], hrefl item⟩

theorem length_le {past later : List Item} (hgoes : GoesOnAs Becomes past later) :
    past.length ≤ later.length := by
  refine Nat.le_of_not_lt fun hlt => ?_
  obtain ⟨kept, hkept, -⟩ :=
    hgoes later.length past[later.length] (List.getElem?_eq_getElem hlt)
  simp at hkept

end GoesOnAs

/-- A slot keeps its time, and its outcome once it has one. -/
structure LoadSlot.Becomes (slot later : LoadSlot) : Prop where
  createdAt : later.createdAt = slot.createdAt
  load : ∀ outcome, slot.load = .ended outcome → later.load = .ended outcome

/-- A caller keeps its slot, and its routes once it has them. -/
structure Caller.Becomes (caller later : Caller) : Prop where
  slot : later.slot = caller.slot
  routes : ∀ routes, caller.routes = some routes → later.routes = some routes

theorem LoadSlot.Becomes.refl (slot : LoadSlot) : slot.Becomes slot :=
  ⟨rfl, fun _ hload => hload⟩

theorem LoadSlot.Becomes.trans {first second third : LoadSlot}
    (hfirst : first.Becomes second) (hsecond : second.Becomes third) :
    first.Becomes third :=
  ⟨hsecond.createdAt.trans hfirst.createdAt,
    fun outcome hload => hsecond.load outcome (hfirst.load outcome hload)⟩

theorem Caller.Becomes.refl (caller : Caller) : caller.Becomes caller :=
  ⟨rfl, fun _ hroutes => hroutes⟩

theorem Caller.Becomes.trans {first second third : Caller}
    (hfirst : first.Becomes second) (hsecond : second.Becomes third) :
    first.Becomes third :=
  ⟨hsecond.slot.trans hfirst.slot,
    fun routes hroutes => hsecond.routes routes (hfirst.routes routes hroutes)⟩

namespace Calls

/-- One state comes after another in some run. -/
structure Precedes (past calls : Calls) : Prop where
  now : past.now.nanos ≤ calls.now.nanos
  ttl : calls.cache.ttl = past.cache.ttl
  slots : GoesOnAs LoadSlot.Becomes past.cache.slots calls.cache.slots
  callers : GoesOnAs Caller.Becomes past.callers calls.callers

namespace Precedes

theorem refl (calls : Calls) : calls.Precedes calls where
  now := Nat.le_refl _
  ttl := rfl
  slots := .refl LoadSlot.Becomes.refl _
  callers := .refl Caller.Becomes.refl _

theorem trans {first second third : Calls} (hfirst : first.Precedes second)
    (hsecond : second.Precedes third) : first.Precedes third where
  now := Nat.le_trans hfirst.now hsecond.now
  ttl := hsecond.ttl.trans hfirst.ttl
  slots := hfirst.slots.trans (fun hone => hone.trans) hsecond.slots
  callers := hfirst.callers.trans (fun hone => hone.trans) hsecond.callers

variable {past calls : Calls} {position slot : Nat} {created : Instant}

theorem installed (hlater : past.Precedes calls) {load : Load}
    (hslot : past.cache.slots[slot]? = some ⟨created, load⟩) :
    ∃ later, calls.cache.slots[slot]? = some ⟨created, later⟩ := by
  obtain ⟨⟨kept, later⟩, hkept, rfl, -⟩ := hlater.slots slot _ hslot
  exact ⟨later, hkept⟩

theorem ended (hlater : past.Precedes calls) {outcome : Option (List Resolved)}
    (hslot : past.cache.slots[slot]? = some ⟨created, .ended outcome⟩) :
    calls.cache.slots[slot]? = some ⟨created, .ended outcome⟩ := by
  obtain ⟨⟨kept, later⟩, hkept, rfl, hload⟩ := hlater.slots slot _ hslot
  obtain rfl : later = .ended outcome := hload outcome rfl
  exact hkept

theorem joined (hlater : past.Precedes calls) {given : Option (List Resolved)}
    (hcaller : past.callers[position]? = some ⟨slot, given⟩) :
    ∃ later, calls.callers[position]? = some ⟨slot, later⟩ := by
  obtain ⟨⟨kept, later⟩, hkept, rfl, -⟩ := hlater.callers position _ hcaller
  exact ⟨later, hkept⟩

theorem served (hlater : past.Precedes calls) {routes : List Resolved}
    (hcaller : past.callers[position]? = some ⟨slot, some routes⟩) :
    calls.callers[position]? = some ⟨slot, some routes⟩ := by
  obtain ⟨⟨kept, later⟩, hkept, rfl, hroutes⟩ := hlater.callers position _ hcaller
  obtain rfl : later = some routes := hroutes routes rfl
  exact hkept

end Precedes

/-- The slots of a state fit together: the loads that run are those of slots
without an outcome, and a caller that has its routes has them from the load of
its slot, or that load has failed. -/
structure Sound (calls : Calls) : Prop where
  installed : ∀ position, calls.cache.installed = some position →
    position < calls.cache.slots.length
  loading : ∀ position ∈ calls.loading, ∃ created,
    calls.cache.slots[position]? = some ⟨created, .running⟩
  created : ∀ slot ∈ calls.cache.slots, slot.createdAt.nanos ≤ calls.now.nanos
  joined : ∀ caller ∈ calls.callers, caller.slot < calls.cache.slots.length
  served : ∀ caller ∈ calls.callers, ∀ routes, caller.routes = some routes →
    ∃ created outcome,
      calls.cache.slots[caller.slot]? = some ⟨created, .ended outcome⟩ ∧
        (outcome = some routes ∨ outcome = none)

/-- A cache that nobody has called yet. -/
def opened (now : Instant) (ttl : Duration) (store : Store.Memory) : Calls :=
  { now := now, store := store, cache := { ttl := ttl } }

theorem sound_opened (now : Instant) (ttl : Duration) (store : Store.Memory) :
    (opened now ttl store).Sound where
  installed := by simp [opened]
  loading := by simp [opened]
  created := by simp [opened]
  joined := by simp [opened]
  served := by simp [opened]

/-! ### One step -/

/-- Ending a running load gives its slot an outcome and keeps the others. -/
theorem goesOnAs_endLoad {calls : Calls} (hsound : calls.Sound) {slot : Nat}
    (hloading : slot ∈ calls.loading) (outcome : Option (List Resolved)) :
    GoesOnAs LoadSlot.Becomes calls.cache.slots
      (calls.cache.endLoad slot outcome).slots := by
  intro position old hold
  rw [Cache.getElem?_endLoad]
  by_cases hsame : slot = position
  · subst hsame
    obtain ⟨created, hrunning⟩ := hsound.loading slot hloading
    obtain rfl : old = ⟨created, .running⟩ := by simpa [hold] using hrunning
    exact ⟨⟨created, .ended outcome⟩, by simp [hold], rfl, by simp⟩
  · exact ⟨old, by simp [hsame, hold], .refl old⟩

theorem precedes_arrive (calls : Calls) : calls.Precedes calls.arrive := by
  rcases calls.arrive_cases with ⟨_, _, -, -, -, h⟩ | ⟨-, h⟩
  · rw [h]
    exact ⟨Nat.le_refl _, rfl, .refl LoadSlot.Becomes.refl _,
      .append Caller.Becomes.refl _ _⟩
  · rw [h]
    exact ⟨Nat.le_refl _, rfl, .append LoadSlot.Becomes.refl _ _,
      .append Caller.Becomes.refl _ _⟩

theorem precedes_finish {calls : Calls} (hsound : calls.Sound) (slot : Nat) :
    calls.Precedes (calls.finish slot) := by
  have hcallers : GoesOnAs Caller.Becomes calls.callers
      (calls.finish slot).callers := by
    rw [callers_finish]
    exact .refl Caller.Becomes.refl _
  rcases calls.finish_cases slot with
    ⟨-, h⟩ | ⟨hloading, ⟨rows, -, h⟩ | ⟨error, -, h⟩⟩
  · rw [h]
    exact .refl calls
  · exact ⟨by simp, by rw [h]; rfl,
      by rw [h]; exact goesOnAs_endLoad hsound hloading _, hcallers⟩
  · exact ⟨by simp, by rw [h]; rfl,
      by rw [h]; exact goesOnAs_endLoad hsound hloading _, hcallers⟩

theorem precedes_collect (calls : Calls) (position : Nat) :
    calls.Precedes (calls.collect position) := by
  rcases calls.collect_cases position with h | ⟨slot, routes, _, hcaller, -, h⟩
  · rw [h]
    exact .refl calls
  · rw [h]
    refine ⟨Nat.le_refl _, rfl, .refl LoadSlot.Becomes.refl _, ?_⟩
    intro other caller hother
    by_cases hsame : position = other
    · subst hsame
      obtain rfl : caller = ⟨slot, none⟩ := by simpa [hother] using hcaller
      have hlt : position < calls.callers.length :=
        (List.getElem?_eq_some_iff.mp hother).1
      exact ⟨⟨slot, some routes⟩, by simp [hlt], rfl, by simp⟩
    · exact ⟨caller, by simp [hsame, hother], .refl caller⟩

theorem precedes_step {calls : Calls} (hsound : calls.Sound) (event : Event) :
    calls.Precedes (calls.step event) := by
  have hkeeps : ∀ next : Calls, calls.now.nanos ≤ next.now.nanos →
      next.cache.ttl = calls.cache.ttl → next.cache.slots = calls.cache.slots →
      next.callers = calls.callers → calls.Precedes next := by
    intro next hnow httl hslots hcallers
    exact ⟨hnow, httl, hslots ▸ .refl LoadSlot.Becomes.refl _,
      hcallers ▸ .refl Caller.Becomes.refl _⟩
  cases event with
  | arrive => exact precedes_arrive calls
  | finish slot => exact precedes_finish hsound slot
  | collect position => exact precedes_collect calls position
  | wait span => exact hkeeps _ (Nat.le_add_right _ _) rfl rfl rfl
  | _ => exact hkeeps _ (Nat.le_refl _) rfl rfl rfl

/-- What earlier callers have is still what their slots say. -/
theorem Sound.served_later {calls next : Calls} (hsound : calls.Sound)
    (hnext : calls.Precedes next) {caller : Caller}
    (hcaller : caller ∈ calls.callers) {routes : List Resolved}
    (hroutes : caller.routes = some routes) :
    ∃ created outcome,
      next.cache.slots[caller.slot]? = some ⟨created, .ended outcome⟩ ∧
        (outcome = some routes ∨ outcome = none) := by
  obtain ⟨created, outcome, hslot, houtcome⟩ :=
    hsound.served caller hcaller routes hroutes
  exact ⟨created, outcome, hnext.ended hslot, houtcome⟩

/-- A caller may wait for any slot. -/
theorem Sound.withCaller {calls : Calls} (hsound : calls.Sound) {slot : Nat}
    (hslot : slot < calls.cache.slots.length) :
    Sound { calls with callers := calls.callers ++ [⟨slot, none⟩] } where
  installed := hsound.installed
  loading := hsound.loading
  created := hsound.created
  joined := by
    intro caller hcaller
    rcases List.mem_append.mp hcaller with hold | hnew
    · exact hsound.joined caller hold
    · rwa [List.mem_singleton.mp hnew]
  served := by
    intro caller hcaller routes hroutes
    rcases List.mem_append.mp hcaller with hold | hnew
    · exact hsound.served caller hold routes hroutes
    · simp [List.mem_singleton.mp hnew] at hroutes

/-- A load may begin at any time, in a slot of its own. -/
theorem Sound.withFresh {calls : Calls} (hsound : calls.Sound) :
    Sound { calls with
      cache := calls.cache.withFresh calls.now
      store := calls.store.beginLoad
      loading := calls.loading ++ [calls.cache.slots.length] } := by
  have hslots : (calls.cache.withFresh calls.now).slots =
      calls.cache.slots ++ [⟨calls.now, .running⟩] := rfl
  have hkept : ∀ {position : Nat} {slot : LoadSlot},
      calls.cache.slots[position]? = some slot →
        (calls.cache.withFresh calls.now).slots[position]? = some slot := by
    intro position slot hslot
    rw [hslots, List.getElem?_append_left (List.getElem?_eq_some_iff.mp hslot).1, hslot]
  refine ⟨?_, ?_, ?_, ?_, ?_⟩
  · rintro position ⟨⟩
    simp [hslots]
  · intro position hposition
    rcases List.mem_append.mp hposition with hold | hnew
    · obtain ⟨created, hslot⟩ := hsound.loading position hold
      exact ⟨created, hkept hslot⟩
    · obtain rfl := List.mem_singleton.mp hnew
      exact ⟨calls.now, by simp [hslots]⟩
  · intro slot hslot
    rcases List.mem_append.mp hslot with hold | hnew
    · exact hsound.created slot hold
    · obtain rfl := List.mem_singleton.mp hnew
      exact Nat.le_refl _
  · intro caller hcaller
    rw [hslots, List.length_append]
    exact Nat.lt_add_right _ (hsound.joined caller hcaller)
  · intro caller hcaller routes hroutes
    obtain ⟨created, outcome, hslot, houtcome⟩ :=
      hsound.served caller hcaller routes hroutes
    exact ⟨created, outcome, hkept hslot, houtcome⟩

theorem sound_arrive {calls : Calls} (hsound : calls.Sound) :
    calls.arrive.Sound := by
  rcases calls.arrive_cases with
    ⟨position, slot, hinstalled, -, -, h⟩ | ⟨-, h⟩
  · rw [h]
    exact hsound.withCaller (hsound.installed position hinstalled)
  · rw [h]
    exact hsound.withFresh.withCaller (by simp [Cache.withFresh])

/-- The facts on slots that ending a load keeps. -/
theorem sound_endLoad {calls next : Calls} (hsound : calls.Sound) {slot : Nat}
    (outcome : Option (List Resolved))
    (hslots : next.cache.slots = (calls.cache.endLoad slot outcome).slots)
    (hinstalled : ∀ position, next.cache.installed = some position →
      calls.cache.installed = some position)
    (hothers : next.loading = calls.loading.filter (· ≠ slot))
    (hcallers : next.callers = calls.callers) (hnow : next.now = calls.now)
    (hnext : calls.Precedes next) : next.Sound := by
  have hlength : next.cache.slots.length = calls.cache.slots.length := by
    rw [hslots, Cache.endLoad, List.length_modify]
  refine ⟨?_, ?_, ?_, ?_, ?_⟩
  · intro position hposition
    rw [hlength]
    exact hsound.installed position (hinstalled position hposition)
  · intro position hposition
    rw [hothers, List.mem_filter] at hposition
    obtain ⟨created, hrunning⟩ := hsound.loading position hposition.1
    have hother : slot ≠ position := by
      have := hposition.2
      simp only [ne_eq, decide_not, Bool.not_eq_eq_eq_not, Bool.not_true,
        decide_eq_false_iff_not] at this
      exact fun h => this h.symm
    exact ⟨created, by rw [hslots, Cache.getElem?_endLoad, if_neg hother, hrunning]⟩
  · intro later hlater
    rw [hnow]
    obtain ⟨position, hposition⟩ := List.mem_iff_getElem?.mp hlater
    rw [hslots, Cache.getElem?_endLoad] at hposition
    split at hposition
    next =>
      obtain ⟨old, hold, rfl⟩ := Option.map_eq_some_iff.mp hposition
      exact hsound.created old (List.mem_of_getElem? hold)
    next => exact hsound.created later (List.mem_of_getElem? hposition)
  · intro caller hcaller
    rw [hlength]
    exact hsound.joined caller (hcallers ▸ hcaller)
  · intro caller hcaller routes hroutes
    exact hsound.served_later hnext (hcallers ▸ hcaller) hroutes

theorem sound_finish {calls : Calls} (hsound : calls.Sound) (slot : Nat) :
    (calls.finish slot).Sound := by
  have hnext := precedes_finish hsound slot
  have hothers := loading_finish slot calls
  have hcallers := callers_finish slot calls
  have hnow := now_finish slot calls
  rcases calls.finish_cases slot with
    ⟨-, h⟩ | ⟨hloading, ⟨rows, -, h⟩ | ⟨error, -, h⟩⟩
  · rw [h]
    exact hsound
  · refine sound_endLoad hsound (some (resolveRows rows).1) (by rw [h]; rfl)
      ?_ hothers hcallers hnow hnext
    rw [h]
    exact fun position hposition => hposition
  · refine sound_endLoad hsound none (by rw [h]; rfl) ?_ hothers hcallers
      hnow hnext
    rw [h]
    intro position hposition
    simp only [Cache.withFailure] at hposition
    split at hposition
    next => simp at hposition
    next => exact hposition

theorem sound_collect {calls : Calls} (hsound : calls.Sound) (position : Nat) :
    (calls.collect position).Sound := by
  rcases calls.collect_cases position with
    h | ⟨slot, routes, _, hcaller, hcollect, h⟩
  · rw [h]
    exact hsound
  · rw [h]
    refine ⟨hsound.installed, hsound.loading, hsound.created, ?_, ?_⟩
    · intro caller hmem
      rcases List.mem_or_eq_of_mem_set hmem with hold | rfl
      · exact hsound.joined caller hold
      · exact hsound.joined ⟨slot, none⟩ (List.mem_of_getElem? hcaller)
    · intro caller hmem given hgiven
      rcases List.mem_or_eq_of_mem_set hmem with hold | rfl
      · exact hsound.served caller hold given hgiven
      · obtain rfl : routes = given := by simpa using hgiven
        unfold Cache.collect? at hcollect
        split at hcollect
        next created loaded hslot =>
          obtain ⟨rfl, -⟩ : loaded = routes ∧ _ := by simpa using hcollect
          exact ⟨created, some loaded, hslot, Or.inl rfl⟩
        next created hslot => exact ⟨created, none, hslot, Or.inr rfl⟩
        next => simp at hcollect

theorem sound_step {calls : Calls} (hsound : calls.Sound) (event : Event) :
    (calls.step event).Sound := by
  cases event with
  | arrive => exact sound_arrive hsound
  | finish slot => exact sound_finish hsound slot
  | collect position => exact sound_collect hsound position
  | invalidate =>
      exact ⟨by simp [step, invalidate, Cache.invalidate], hsound.loading,
        hsound.created, hsound.joined, hsound.served⟩
  | wait span =>
      exact ⟨hsound.installed, hsound.loading,
        fun slot hslot => Nat.le_add_right_of_le (hsound.created slot hslot),
        hsound.joined, hsound.served⟩
  | _ =>
      exact ⟨hsound.installed, hsound.loading, hsound.created, hsound.joined,
        hsound.served⟩

/-! ### Runs -/

theorem run_append (calls : Calls) (events others : List Event) :
    calls.run (events ++ others) = (calls.run events).run others := by
  simp [run]

theorem run_concat (calls : Calls) (events : List Event) (event : Event) :
    calls.run (events ++ [event]) = (calls.run events).step event := by
  rw [run_append]
  rfl

theorem sound_run {calls : Calls} (hsound : calls.Sound) (events : List Event) :
    (calls.run events).Sound := by
  induction events generalizing calls with
  | nil => exact hsound
  | cons event events ih => exact ih (sound_step hsound event)

theorem precedes_run {calls : Calls} (hsound : calls.Sound) (events : List Event) :
    calls.Precedes (calls.run events) := by
  induction events generalizing calls with
  | nil => exact .refl calls
  | cons event events ih =>
      exact (precedes_step hsound event).trans (ih (sound_step hsound event))

/-- A slot has its outcome from before a step, or the step has ended its load. -/
theorem outcome_step {calls : Calls} {event : Event} {slot : Nat}
    {created : Instant} {outcome : Option (List Resolved)}
    (hended : (calls.step event).cache.slots[slot]? =
      some ⟨created, .ended outcome⟩) :
    calls.cache.slots[slot]? = some ⟨created, .ended outcome⟩ ∨
      (event = .finish slot ∧ slot ∈ calls.loading ∧
        outcome = calls.outcomeNow) := by
  cases event with
  | arrive =>
      left
      rcases calls.arrive_cases with ⟨_, _, -, -, -, h⟩ | ⟨-, h⟩
      · rw [step, h] at hended
        exact hended
      · rw [step, h] at hended
        simp only [Cache.withFresh, List.getElem?_append, List.getElem?_singleton]
          at hended
        split at hended
        next => exact hended
        next => split at hended <;> simp at hended
  | finish ended =>
      rw [step, getElem?_finish] at hended
      split at hended
      next hboth =>
        obtain ⟨hloading, rfl⟩ := hboth
        obtain ⟨old, -, hold⟩ := Option.map_eq_some_iff.mp hended
        have houtcome : calls.outcomeNow = outcome := by
          simpa using congrArg LoadSlot.load hold
        exact Or.inr ⟨rfl, hloading, houtcome.symm⟩
      next => exact Or.inl hended
  | collect position => exact Or.inl (by rwa [step, cache_collect] at hended)
  | _ => exact Or.inl hended

/-- The outcome of a slot was reached in the run, or the run began with it. -/
theorem outcome_run {start : Calls} (events : List Event) {slot : Nat}
    {created : Instant} {outcome : Option (List Resolved)}
    (hended : (start.run events).cache.slots[slot]? =
      some ⟨created, .ended outcome⟩) :
    start.cache.slots[slot]? = some ⟨created, .ended outcome⟩ ∨
      ∃ earlier later, events = earlier ++ .finish slot :: later ∧
        slot ∈ (start.run earlier).loading ∧
          outcome = (start.run earlier).outcomeNow := by
  induction events using List.reverseRecOn with
  | nil => exact Or.inl hended
  | append_singleton events event ih =>
      rw [run_append] at hended
      rcases outcome_step hended with hbefore | ⟨rfl, hloading, houtcome⟩
      · rcases ih hbefore with hstart | ⟨earlier, later, rfl, hreached⟩
        · exact Or.inl hstart
        · exact Or.inr ⟨earlier, later ++ [event], by simp, hreached⟩
      · exact Or.inr ⟨events, [], rfl, hloading, houtcome⟩

end Calls

end EdgeGateway.Route
