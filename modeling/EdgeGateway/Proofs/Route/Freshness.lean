import EdgeGateway.Proofs.Route.Slots
import Mathlib.Data.List.Induction

/-!
# Fresh routes

Routes come from the rows that the store had when the load of the slot ended, so
what a caller gets is as old as its slot at most.  An invalidation parts the
callers in two: the slots of those before it are never seen by those after it.
-/

namespace EdgeGateway.Route.Calls

/-- A run has ended the load of a slot with these routes, read in this state. -/
def LoadedIn (start : Calls) (events : List Event) (slot : Nat)
    (routes : List Resolved) (state : Calls) : Prop :=
  ∃ earlier later, events = earlier ++ .finish slot :: later ∧
    state = start.run earlier ∧ slot ∈ state.loading ∧
      ∃ rows, state.store.readRoutes = .ok rows ∧
        routes = (resolveRows rows).1

/-- The routes of a slot were read in the run, or the run began with them. -/
theorem loadedIn_of_ended {start : Calls} (events : List Event) {slot : Nat}
    {created : Instant} {routes : List Resolved}
    (hended : (start.run events).cache.slots[slot]? =
      some ⟨created, .ended (some routes)⟩) :
    start.cache.slots[slot]? = some ⟨created, .ended (some routes)⟩ ∨
      ∃ state, LoadedIn start events slot routes state := by
  refine (outcome_run events hended).imp_right ?_
  rintro ⟨earlier, later, hevents, hloading, houtcome⟩
  exact ⟨_, earlier, later, hevents, rfl, hloading,
    outcomeNow_eq_some_iff.mp houtcome.symm⟩

/-! ## After an invalidation -/

/-- Since a state without a living slot, callers have only met newer slots. -/
structure Apart (past calls : Calls) : Prop where
  installed : ∀ position, calls.cache.installed = some position →
    past.cache.slots.length ≤ position
  caller : ∀ (position : Nat) (caller : Caller),
    calls.callers[position]? = some caller →
      past.callers.length ≤ position →
        past.cache.slots.length ≤ caller.slot

theorem apart_arrive {past calls : Calls} (hapart : Apart past calls)
    (hslots : past.cache.slots.length ≤ calls.cache.slots.length) :
    Apart past calls.arrive := by
  have hcaller : ∀ slot, past.cache.slots.length ≤ slot →
      ∀ (position : Nat) (caller : Caller),
        (calls.callers ++ [⟨slot, none⟩])[position]? = some caller →
          past.callers.length ≤ position →
            past.cache.slots.length ≤ caller.slot := by
    intro slot hslot position caller hposition hlater
    rw [List.getElem?_append] at hposition
    split at hposition
    next => exact hapart.caller position caller hposition hlater
    next =>
      obtain rfl : caller = ⟨slot, none⟩ := by
        simpa using List.mem_of_getElem? hposition
      exact hslot
  rcases calls.arrive_cases with ⟨position, _, hinstalled, -, -, h⟩ | ⟨-, h⟩
  · rw [h]
    exact ⟨hapart.installed, hcaller position (hapart.installed position hinstalled)⟩
  · rw [h]
    refine ⟨?_, hcaller calls.cache.slots.length hslots⟩
    rintro position ⟨⟩
    exact hslots

theorem apart_step {past calls : Calls} (hapart : Apart past calls)
    (hslots : past.cache.slots.length ≤ calls.cache.slots.length)
    (event : Event) : Apart past (calls.step event) := by
  cases event with
  | arrive => exact apart_arrive hapart hslots
  | finish slot =>
      refine ⟨fun position hposition =>
        hapart.installed position (installed_finish hposition), ?_⟩
      rw [step, callers_finish]
      exact hapart.caller
  | collect served =>
      rcases calls.collect_cases served with h | ⟨slot, _, _, hserved, -, h⟩
      · rw [step, h]
        exact hapart
      · rw [step, h]
        refine ⟨hapart.installed, ?_⟩
        intro position caller hposition hlater
        rw [List.getElem?_set] at hposition
        split at hposition
        next hsame =>
          subst hsame
          split at hposition
          next =>
            obtain rfl := Option.some.inj hposition
            exact hapart.caller served ⟨slot, none⟩ hserved hlater
          next => simp at hposition
        next => exact hapart.caller position caller hposition hlater
  | invalidate =>
      exact ⟨by simp [step, invalidate, Cache.invalidate], hapart.caller⟩
  | _ => exact ⟨hapart.installed, hapart.caller⟩

theorem apart_run {past : Calls} (hsound : past.Sound)
    (hnone : past.cache.installed = none) (events : List Event) :
    Apart past (past.run events) := by
  induction events using List.reverseRecOn with
  | nil =>
      refine ⟨by simp [run, hnone], ?_⟩
      intro position caller hposition hlater
      have hlt := (List.getElem?_eq_some_iff.mp hposition).1
      exact absurd hlater (Nat.not_le.mpr hlt)
  | append_singleton events event ih =>
      rw [run_append]
      exact apart_step ih (precedes_run hsound events).slots.length_le event

/-! ## The age of routes -/

/-- The rows of a slot are read no earlier than the slot is installed. -/
theorem createdAt_le_of_loadedIn {start : Calls} (hsound : start.Sound)
    {events : List Event} {slot : Nat} {routes : List Resolved} {state : Calls}
    (hloaded : LoadedIn start events slot routes state) {held : LoadSlot}
    (hheld : (start.run events).cache.slots[slot]? = some held) :
    held.createdAt.nanos ≤ state.now.nanos := by
  obtain ⟨earlier, later, rfl, rfl, hloading, -⟩ := hloaded
  have hmiddle : (start.run earlier).Sound := sound_run hsound earlier
  obtain ⟨created, hrunning⟩ := hmiddle.loading slot hloading
  have hprecedes := precedes_run hmiddle (.finish slot :: later)
  rw [← run_append] at hprecedes
  obtain ⟨kept, hkept, hbecomes⟩ := hprecedes.slots slot _ hrunning
  obtain rfl : held = kept := by simpa [hheld] using hkept
  rw [hbecomes.createdAt]
  exact hmiddle.created _ (List.mem_of_getElem? hrunning)

/-- The slot that a caller joins is either new or younger than its lifetime. -/
theorem joined_slot (calls : Calls) :
    ∃ slot held, calls.arrive.callers[calls.callers.length]? = some ⟨slot, none⟩ ∧
      calls.arrive.cache.slots[slot]? = some held ∧
      if (calls.cache.join calls.now).starts then
        held.createdAt = calls.now
      else calls.now.nanos < held.createdAt.nanos + calls.cache.ttl.nanos := by
  rcases calls.cache.join_cases calls.now with
    ⟨position, slot, -, hslot, hyoung, hjoin⟩ | ⟨-, hjoin⟩
  · refine ⟨position, slot, by simp [arrive, hjoin], by simp [arrive, hjoin, hslot], ?_⟩
    simpa [hjoin] using LoadSlot.lt_of_not_expired hyoung
  · exact ⟨calls.cache.slots.length, ⟨calls.now, .running⟩, by simp [arrive, hjoin],
      by simp [arrive, hjoin, Cache.withFresh], by simp [hjoin]⟩

/-- The load of a slot has ended well. -/
def Succeeded (calls : Calls) (slot : Nat) : Prop :=
  ∃ created routes, calls.cache.slots[slot]? = some ⟨created, .ended (some routes)⟩

/-- Who has joined a load that succeeded has its routes and no others. -/
theorem slot_of_served {calls : Calls} (hsound : calls.Sound) {position slot : Nat}
    {routes : List Resolved}
    (hcaller : calls.callers[position]? = some ⟨slot, some routes⟩)
    (hsucceeded : calls.Succeeded slot) :
    ∃ created, calls.cache.slots[slot]? = some ⟨created, .ended (some routes)⟩ := by
  obtain ⟨created, loaded, hslot⟩ := hsucceeded
  obtain ⟨_, outcome, hslot', houtcome⟩ :=
    hsound.served _ (List.mem_of_getElem? hcaller) routes rfl
  have hsame : Load.ended (some loaded) = .ended outcome := by
    simpa using congrArg (Option.map LoadSlot.load) (hslot.symm.trans hslot')
  rcases houtcome with rfl | rfl
  · obtain rfl : loaded = routes := by simpa using hsame
    exact ⟨created, hslot⟩
  · simp at hsame

theorem loadedIn_of_later {past : Calls} (hsound : past.Sound)
    (hnone : past.cache.installed = none) (after : List Event)
    {position slot : Nat} {routes : List Resolved}
    (hlater : past.callers.length ≤ position)
    (hcaller : (past.run after).callers[position]? = some ⟨slot, some routes⟩)
    (hsucceeded : (past.run after).Succeeded slot) :
    ∃ state, LoadedIn past after slot routes state := by
  obtain ⟨created, hslot⟩ :=
    slot_of_served (sound_run hsound after) hcaller hsucceeded
  rcases loadedIn_of_ended after hslot with hold | hread
  · have hnew := (apart_run hsound hnone after).caller position _ hcaller hlater
    have hlt := (List.getElem?_eq_some_iff.mp hold).1
    exact absurd hnew (Nat.not_le.mpr hlt)
  · exact hread

theorem unseen_of_loading {past : Calls} (hsound : past.Sound)
    (hnone : past.cache.installed = none) (after : List Event) {slot : Nat}
    (hloading : slot ∈ past.loading) :
    (∀ (position : Nat) (caller : Caller),
      (past.run after).callers[position]? = some caller → caller.slot = slot →
        position < past.callers.length) ∧
    (past.run after).cache.installed ≠ some slot ∧
    ((past.run after).finish slot).cache.installed =
      (past.run after).cache.installed := by
  have hapart := apart_run hsound hnone after
  obtain ⟨created, hrunning⟩ := hsound.loading slot hloading
  have hlt := (List.getElem?_eq_some_iff.mp hrunning).1
  have hinstalled : (past.run after).cache.installed ≠ some slot := by
    intro hsame
    exact absurd (hapart.installed slot hsame) (Nat.not_le.mpr hlt)
  refine ⟨?_, hinstalled, installed_finish_of_ne hinstalled⟩
  rintro position caller hcaller rfl
  refine Nat.lt_of_not_le fun hlater => ?_
  exact absurd (hapart.caller position caller hcaller hlater) (Nat.not_le.mpr hlt)

/-- The routes of a caller that shares a load are younger than the lifetime. -/
theorem age_of_routes {start : Calls} (hsound : start.Sound)
    (hempty : start.cache.slots = []) (before after : List Event)
    {slot : Nat} {routes : List Resolved}
    (hcaller : (start.run (before ++ .arrive :: after)).callers[
      (start.run before).callers.length]? = some ⟨slot, some routes⟩)
    (hsucceeded : (start.run (before ++ .arrive :: after)).Succeeded slot) :
    ∃ state, LoadedIn start (before ++ .arrive :: after) slot routes state ∧
      if ((start.run before).cache.join (start.run before).now).starts then
        (start.run before).now.nanos ≤ state.now.nanos
      else
        (start.run before).now.nanos < state.now.nanos + start.cache.ttl.nanos := by
  have hpast : (start.run before).Sound := sound_run hsound before
  have hevents : start.run (before ++ .arrive :: after) =
      (start.run before).arrive.run after := by
    rw [run_append]
    rfl
  obtain ⟨created, hslot⟩ :=
    slot_of_served (sound_run hsound _) hcaller hsucceeded
  have hread := (loadedIn_of_ended _ hslot).resolve_left (by simp [hempty])
  obtain ⟨state, hstate⟩ := hread
  refine ⟨state, hstate, ?_⟩
  have hage := createdAt_le_of_loadedIn hsound hstate hslot
  obtain ⟨joined, held, hjoined, hheld, hyoung⟩ := (start.run before).joined_slot
  have hlater := precedes_run (sound_step hpast .arrive) after
  change (start.run before).arrive.Precedes ((start.run before).arrive.run after)
    at hlater
  rw [← hevents] at hlater
  have hsame : joined = slot := by
    obtain ⟨kept, hkept, hkeeps⟩ := hlater.callers _ _ hjoined
    obtain rfl : ⟨slot, some routes⟩ = kept := by simpa [hcaller] using hkept
    exact hkeeps.slot.symm
  have hcreated : created = held.createdAt := by
    obtain ⟨kept, hkept, hkeeps⟩ := hlater.slots _ _ hheld
    obtain rfl : ⟨created, .ended (some routes)⟩ = kept := by
      simpa [hsame, hslot] using hkept
    exact hkeeps.createdAt
  have httl := (precedes_run hsound before).ttl
  split at hyoung
  next hstarts => rwa [if_pos hstarts, ← hyoung, ← hcreated]
  next hstarts =>
    rw [if_neg hstarts]
    rw [httl, ← hcreated] at hyoung
    exact Nat.lt_of_lt_of_le hyoung (Nat.add_le_add_right hage _)

/-- Routes that a caller has got from the load of its slot were read by that
load: after any invalidation before the caller, and less than a lifetime before
the caller, unless it has started the load itself.  A load that runs during an
invalidation is seen by nobody who comes later, neither as a slot to share nor
as a failure that takes another slot away. -/
theorem routes_read_after_invalidate (now : Instant) (ttl : Duration)
    (store : Store.Memory) :
    let start := opened now ttl store
    (∀ before after : List Event,
      let past := start.run (before ++ [.invalidate])
      let final := past.run after
      (∀ position slot routes, past.callers.length ≤ position →
        final.callers[position]? = some ⟨slot, some routes⟩ →
        final.Succeeded slot →
          ∃ state, LoadedIn past after slot routes state) ∧
      (∀ slot ∈ past.loading,
        (∀ (position : Nat) (caller : Caller),
          final.callers[position]? = some caller → caller.slot = slot →
            position < past.callers.length) ∧
        final.cache.installed ≠ some slot ∧
        (final.finish slot).cache.installed = final.cache.installed) ∧
      ∀ caller ∈ final.callers, ∀ routes, caller.routes = some routes →
        ∃ created outcome,
          final.cache.slots[caller.slot]? = some ⟨created, .ended outcome⟩ ∧
            (outcome = some routes ∨ outcome = none)) ∧
    ∀ before after : List Event,
      let past := start.run before
      let events := before ++ .arrive :: after
      ∀ slot routes,
        (start.run events).callers[past.callers.length]? =
          some ⟨slot, some routes⟩ →
        (start.run events).Succeeded slot →
          ∃ state, LoadedIn start events slot routes state ∧
            if (past.cache.join past.now).starts then
              past.now.nanos ≤ state.now.nanos
            else past.now.nanos < state.now.nanos + ttl.nanos := by
  intro start
  have hstart : start.Sound := sound_opened now ttl store
  refine ⟨?_, fun before after slot routes => age_of_routes hstart rfl before after⟩
  intro before after past final
  have hpast : past.Sound := sound_run hstart _
  have hnone : past.cache.installed = none := by
    simp [past, run_append, run, step, invalidate, Cache.invalidate]
  exact ⟨fun position slot routes => loadedIn_of_later hpast hnone after,
    fun slot => unseen_of_loading hpast hnone after, (sound_run hpast after).served⟩

def ordersRow : Row := { id := "orders", uri := some "http://orders:8080" }

/-- A load that an invalidation leaves behind ends before the row is added. -/
def overtaken : List Event :=
  [.arrive, .finish 0, .replaceRows [ordersRow], .finish 1, .collect 0, .collect 1]

theorem second_caller_sees_orders :
    let past := (opened .start (.ofMinutes 5) {}).run ([.arrive] ++ [.invalidate])
    0 ∈ past.loading ∧ past.callers.length ≤ 1 ∧
      (past.run overtaken).callers =
        [⟨0, some []⟩, ⟨1, some (resolveRows [ordersRow]).1⟩] ∧
      (past.run overtaken).cache.installed ≠ some 0 ∧
      ∃ state, LoadedIn past overtaken 1 (resolveRows [ordersRow]).1 state := by
  intro past
  obtain ⟨hfresh, hunseen, -⟩ :=
    (routes_read_after_invalidate .start (.ofMinutes 5) {}).1 [.arrive] overtaken
  refine ⟨by decide, Nat.le_refl _, rfl, (hunseen 0 (by decide)).2.1, ?_⟩
  exact hfresh 1 1 _ (Nat.le_refl _) rfl ⟨.start, _, rfl⟩

end EdgeGateway.Route.Calls
