import EdgeGateway.Proofs.Route.Slots

/-!
# Serving callers

A caller gets what the load of its slot has ended with, and what stands in for
routes if that load has failed.  No caller is left behind: a load that has not
ended runs, and once it ends all who wait for it can be served.  A call that goes
on while nothing else happens is a run of such steps.
-/

namespace EdgeGateway.Route

namespace Calls

/-- The installed slot is the newest and has not failed, and a slot without an
outcome is being loaded. -/
structure Orderly (calls : Calls) : Prop where
  newest : ∀ position, calls.cache.installed = some position →
    position + 1 = calls.cache.slots.length
  unfailed : ∀ position created, calls.cache.installed = some position →
    calls.cache.slots[position]? ≠ some ⟨created, .ended none⟩
  running : ∀ position created,
    calls.cache.slots[position]? = some ⟨created, .running⟩ →
      position ∈ calls.loading

theorem orderly_opened (now : Instant) (ttl : Duration) (store : Store.Memory) :
    (opened now ttl store).Orderly where
  newest := by simp [opened]
  unfailed := by simp [opened]
  running := by simp [opened]

theorem orderly_arrive {calls : Calls} (horderly : calls.Orderly) :
    calls.arrive.Orderly := by
  rcases calls.arrive_cases with ⟨_, _, -, -, -, h⟩ | ⟨-, h⟩
  · rw [h]
    exact ⟨horderly.newest, horderly.unfailed, horderly.running⟩
  · rw [h]
    refine ⟨?_, ?_, ?_⟩
    · rintro position ⟨⟩
      simp [Cache.withFresh]
    · rintro position created ⟨⟩
      simp [Cache.withFresh]
    · intro position created hrunning
      rw [Cache.withFresh, List.getElem?_append] at hrunning
      split at hrunning
      next => exact List.mem_append_left _ (horderly.running position created hrunning)
      next hlast =>
        have hlt := (List.getElem?_eq_some_iff.mp hrunning).1
        have hposition : position = calls.cache.slots.length := by
          simp only [List.length_singleton] at hlt
          omega
        exact List.mem_append_right _ (List.mem_singleton.mpr hposition)

theorem orderly_finish {calls : Calls} (horderly : calls.Orderly) (slot : Nat) :
    (calls.finish slot).Orderly := by
  refine ⟨?_, ?_, ?_⟩
  · intro position hinstalled
    rw [length_slots_finish]
    exact horderly.newest position (installed_finish hinstalled)
  · intro position created hinstalled hfailed
    rw [getElem?_finish] at hfailed
    split at hfailed
    next hboth =>
      obtain ⟨hloading, rfl⟩ := hboth
      obtain ⟨old, -, hold⟩ := Option.map_eq_some_iff.mp hfailed
      have houtcome : calls.outcomeNow = none := by
        simpa using congrArg LoadSlot.load hold
      exact installed_finish_ne_of_failed hloading houtcome hinstalled
    next =>
      exact horderly.unfailed position created (installed_finish hinstalled) hfailed
  · intro position created hrunning
    rw [getElem?_finish] at hrunning
    split at hrunning
    next =>
      obtain ⟨old, -, hold⟩ := Option.map_eq_some_iff.mp hrunning
      simp at hold
    next hnot =>
      have hloading := horderly.running position created hrunning
      rw [loading_finish, List.mem_filter]
      refine ⟨hloading, ?_⟩
      rw [decide_eq_true_iff]
      rintro rfl
      exact hnot ⟨hloading, rfl⟩

theorem orderly_step {calls : Calls} (horderly : calls.Orderly) (event : Event) :
    (calls.step event).Orderly := by
  cases event with
  | arrive => exact orderly_arrive horderly
  | finish slot => exact orderly_finish horderly slot
  | collect position =>
      rcases calls.collect_cases position with h | ⟨_, _, _, -, -, h⟩
      · rw [step, h]
        exact horderly
      · rw [step, h]
        exact ⟨horderly.newest, horderly.unfailed, horderly.running⟩
  | invalidate =>
      exact ⟨by simp [step, invalidate, Cache.invalidate],
        by simp [step, invalidate, Cache.invalidate], horderly.running⟩
  | _ => exact ⟨horderly.newest, horderly.unfailed, horderly.running⟩

theorem orderly_run {calls : Calls} (horderly : calls.Orderly)
    (events : List Event) : (calls.run events).Orderly := by
  induction events generalizing calls with
  | nil => exact horderly
  | cons event events ih => exact ih (orderly_step horderly event)

/-! ## One caller -/

/-- Who waits on a load that has ended is served at once. -/
theorem callers_collect_of_ended {calls : Calls} {position slot : Nat}
    {created : Instant} {outcome : Option (List Resolved)}
    (hcaller : calls.callers[position]? = some ⟨slot, none⟩)
    (hslot : calls.cache.slots[slot]? = some ⟨created, .ended outcome⟩) :
    (calls.collect position).callers[position]? =
      some ⟨slot, some (outcome.getD calls.cache.fallback.1)⟩ := by
  have hlt := (List.getElem?_eq_some_iff.mp hcaller).1
  cases outcome with
  | none =>
      simp only [collect, hcaller, Cache.collect?, hslot]
      simp [hlt]
  | some routes =>
      simp only [collect, hcaller, Cache.collect?, hslot]
      simp [hlt]

/-- Whoever a step serves has waited on a load that had ended. -/
theorem served_step {calls : Calls} {event : Event} {position slot : Nat}
    {routes : List Resolved}
    (hserved : (calls.step event).callers[position]? = some ⟨slot, some routes⟩) :
    calls.callers[position]? = some ⟨slot, some routes⟩ ∨
      (event = .collect position ∧ ∃ created outcome,
        calls.cache.slots[slot]? = some ⟨created, .ended outcome⟩ ∧
          routes = outcome.getD calls.cache.fallback.1) := by
  cases event with
  | arrive =>
      left
      obtain ⟨joined, hcallers⟩ := calls.callers_arrive
      rw [step, hcallers, List.getElem?_append] at hserved
      split at hserved
      next => exact hserved
      next =>
        have hnew := List.mem_of_getElem? hserved
        simp at hnew
  | finish ended => exact Or.inl (by rwa [step, callers_finish] at hserved)
  | collect served =>
      rcases calls.collect_cases served with
        h | ⟨joined, given, _, hcaller, hcollect, h⟩
      · exact Or.inl (by rwa [step, h] at hserved)
      · rw [step, h, List.getElem?_set] at hserved
        split at hserved
        next hsame =>
          subst hsame
          right
          obtain ⟨rfl, rfl⟩ : joined = slot ∧ given = routes := by
            split at hserved
            next => simpa using hserved
            next => simp at hserved
          refine ⟨rfl, ?_⟩
          unfold Cache.collect? at hcollect
          split at hcollect
          next created loaded hslot =>
            obtain ⟨rfl, -⟩ : loaded = given ∧ _ := by simpa using hcollect
            exact ⟨created, some loaded, hslot, rfl⟩
          next created hslot =>
            refine ⟨created, none, hslot, ?_⟩
            simpa using (congrArg Prod.fst (Option.some.inj hcollect)).symm
          next => simp at hcollect
        next => exact Or.inl hserved
  | _ => exact Or.inl hserved

/-- A caller has got its routes in a run: its slot had this outcome by then, and
the routes are those of the outcome or, if there are none, what stood in for
them at that time. -/
def ServedIn (start : Calls) (events : List Event) (position slot : Nat)
    (outcome : Option (List Resolved)) (routes : List Resolved) : Prop :=
  ∃ earlier later, events = earlier ++ .collect position :: later ∧
    (∃ created, (start.run earlier).cache.slots[slot]? =
      some ⟨created, .ended outcome⟩) ∧
    routes = outcome.getD (start.run earlier).cache.fallback.1

/-- Routes that a caller has were given in the run, or the run began with them. -/
theorem servedIn_of_served {start : Calls} (events : List Event)
    {position slot : Nat} {routes : List Resolved}
    (hserved : (start.run events).callers[position]? =
      some ⟨slot, some routes⟩) :
    start.callers[position]? = some ⟨slot, some routes⟩ ∨
      ∃ outcome, ServedIn start events position slot outcome routes := by
  induction events using List.reverseRecOn with
  | nil => exact Or.inl hserved
  | append_singleton events event ih =>
      rw [run_append] at hserved
      rcases served_step hserved with
        hbefore | ⟨rfl, created, outcome, hslot, hroutes⟩
      · rcases ih hbefore with hstart | ⟨outcome, earlier, later, rfl, hgiven⟩
        · exact Or.inl hstart
        · exact Or.inr ⟨outcome, earlier, later ++ [event], by simp, hgiven⟩
      · exact Or.inr ⟨outcome, events, [], rfl, ⟨created, hslot⟩, hroutes⟩

/-- The outcome by which a caller was served is still the outcome of its slot. -/
theorem ServedIn.outcome {start : Calls} (hsound : start.Sound)
    {events : List Event} {position slot : Nat}
    {outcome : Option (List Resolved)} {routes : List Resolved}
    (hserved : ServedIn start events position slot outcome routes) :
    ∃ created, (start.run events).cache.slots[slot]? =
      some ⟨created, .ended outcome⟩ := by
  obtain ⟨earlier, later, rfl, ⟨created, hslot⟩, -⟩ := hserved
  have hlater := precedes_run (sound_run hsound earlier) (.collect position :: later)
  rw [← run_append] at hlater
  exact ⟨created, hlater.ended hslot⟩

/-- Nobody has routes from a slot that is still being loaded. -/
theorem routes_eq_none_of_loading {calls : Calls} (hsound : calls.Sound)
    {caller : Caller} (hcaller : caller ∈ calls.callers)
    (hloading : caller.slot ∈ calls.loading) : caller.routes = none := by
  cases hroutes : caller.routes with
  | none => rfl
  | some routes =>
      obtain ⟨created, hrunning⟩ := hsound.loading _ hloading
      obtain ⟨_, outcome, hended, -⟩ := hsound.served caller hcaller routes hroutes
      simp [hrunning] at hended

/-- A slot that is not being loaded has an outcome. -/
theorem ended_of_not_loading {calls : Calls} (horderly : calls.Orderly)
    {slot : Nat} (hslot : slot < calls.cache.slots.length)
    (hidle : slot ∉ calls.loading) :
    ∃ created outcome,
      calls.cache.slots[slot]? = some ⟨created, .ended outcome⟩ := by
  have hheld := List.getElem?_eq_getElem hslot
  cases hload : calls.cache.slots[slot] with
  | mk created load =>
      rw [hload] at hheld
      cases load with
      | running => exact absurd (horderly.running slot created hheld) hidle
      | ended outcome => exact ⟨created, outcome, hheld⟩

/-- Whoever waits is served once the load of the slot has ended. -/
theorem served_after_finish {calls : Calls} (hsound : calls.Sound)
    (horderly : calls.Orderly) {position slot : Nat}
    (hcaller : calls.callers[position]? = some ⟨slot, none⟩) :
    ∃ routes, ((calls.finish slot).collect position).callers[position]? =
      some ⟨slot, some routes⟩ := by
  have hlt := hsound.joined _ (List.mem_of_getElem? hcaller)
  have hidle : slot ∉ (calls.finish slot).loading := by
    simp [loading_finish]
  obtain ⟨created, outcome, hslot⟩ :=
    ended_of_not_loading (orderly_finish horderly slot)
      (by rwa [length_slots_finish]) hidle
  rw [← callers_finish slot calls] at hcaller
  exact ⟨_, callers_collect_of_ended hcaller hslot⟩

end Calls

/-! ## Calls that go on by themselves -/

/-- A step of the calls under way: none begins, and nothing outside changes. -/
def Event.GoesOn : Event → Prop
  | .finish _ | .collect _ | .wait _ => True
  | _ => False

namespace Calls

/-- What the steps of the calls under way keep, any run of them keeps. -/
theorem view_run_of_goesOn {View : Type} (view : Calls → View)
    (hfinish : ∀ calls slot, view (calls.finish slot) = view calls)
    (hcollect : ∀ calls position, view (calls.collect position) = view calls)
    (hwait : ∀ calls span, view (calls.wait span) = view calls)
    (calls : Calls) {events : List Event}
    (hgoes : ∀ event ∈ events, event.GoesOn) :
    view (calls.run events) = view calls := by
  induction events generalizing calls with
  | nil => rfl
  | cons event events ih =>
      have hfirst := hgoes event List.mem_cons_self
      have hrest := ih (calls.step event)
        fun other hother => hgoes other (List.mem_cons_of_mem _ hother)
      refine hrest.trans ?_
      cases event with
      | finish slot => exact hfinish calls slot
      | collect position => exact hcollect calls position
      | wait span => exact hwait calls span
      | _ => exact hfirst.elim

theorem store_run_of_goesOn (calls : Calls) {events : List Event}
    (hgoes : ∀ event ∈ events, event.GoesOn) :
    (calls.run events).store = calls.store :=
  view_run_of_goesOn Calls.store (fun calls slot => store_finish slot calls)
    store_collect (fun _ _ => rfl) calls hgoes

theorem length_callers_run_of_goesOn (calls : Calls) {events : List Event}
    (hgoes : ∀ event ∈ events, event.GoesOn) :
    (calls.run events).callers.length = calls.callers.length :=
  view_run_of_goesOn (fun calls => calls.callers.length)
    (fun calls slot => congrArg List.length (callers_finish slot calls))
    length_callers_collect (fun _ _ => rfl) calls hgoes

/-- The steps that let every running load end. -/
def endings (calls : Calls) : List Event :=
  (if calls.loading = [] then [] else [.wait calls.store.routeLatency]) ++
    calls.loading.map .finish

theorem endings_goesOn (calls : Calls) :
    ∀ event ∈ calls.endings, event.GoesOn := by
  intro event hevent
  rcases List.mem_append.mp hevent with hwait | hfinish
  · split at hwait
    next => simp at hwait
    next =>
      obtain rfl := List.mem_singleton.mp hwait
      trivial
  · obtain ⟨slot, -, rfl⟩ := List.mem_map.mp hfinish
    trivial

/-- The steps by which all calls under way come to their ends. -/
def settling (calls : Calls) : List Event :=
  calls.endings ++ (List.range calls.callers.length).map .collect

theorem settling_goesOn (calls : Calls) :
    ∀ event ∈ calls.settling, event.GoesOn := by
  intro event hevent
  rcases List.mem_append.mp hevent with hending | hcollect
  · exact endings_goesOn calls event hending
  · obtain ⟨position, -, rfl⟩ := List.mem_map.mp hcollect
    trivial

theorem settle_eq_run (calls : Calls) :
    calls.settle = calls.run calls.settling := by
  rw [settling, run_append,
    ← length_callers_run_of_goesOn calls calls.endings_goesOn]
  rfl

theorem loading_run_finish (calls : Calls) (slots : List Nat) :
    (calls.run (slots.map .finish)).loading =
      calls.loading.filter (· ∉ slots) := by
  induction slots generalizing calls with
  | nil => exact (List.filter_eq_self.mpr (by simp)).symm
  | cons slot slots ih =>
      change ((calls.finish slot).run (slots.map .finish)).loading = _
      rw [ih, loading_finish, List.filter_filter]
      refine List.filter_congr fun other _ => ?_
      simp [Bool.and_comm]

theorem loading_run_endings (calls : Calls) :
    (calls.run calls.endings).loading = [] := by
  have hfinished : (calls.run (calls.loading.map .finish)).loading = [] := by
    simp [loading_run_finish]
  unfold endings
  split
  next => exact hfinished
  next =>
    rw [run_append]
    change ((calls.wait _).run (calls.loading.map .finish)).loading = []
    rw [loading_run_finish]
    simp [wait]

/-- While no load runs, a caller that is asked for is served. -/
theorem served_collect {calls : Calls} (hsound : calls.Sound)
    (horderly : calls.Orderly) (hidle : calls.loading = []) {position slot : Nat}
    {given : Option (List Resolved)}
    (hcaller : calls.callers[position]? = some ⟨slot, given⟩) :
    ∃ routes, (calls.collect position).callers[position]? =
      some ⟨slot, some routes⟩ := by
  cases given with
  | none =>
      have hlt := hsound.joined _ (List.mem_of_getElem? hcaller)
      obtain ⟨created, outcome, hslot⟩ :=
        ended_of_not_loading horderly hlt (by simp [hidle])
      exact ⟨_, callers_collect_of_ended hcaller hslot⟩
  | some routes => exact ⟨routes, (precedes_collect calls position).served hcaller⟩

theorem served_run_collect {calls : Calls} (hsound : calls.Sound)
    (horderly : calls.Orderly) (hidle : calls.loading = [])
    {positions : List Nat} {position slot : Nat} (hmem : position ∈ positions)
    {given : Option (List Resolved)}
    (hcaller : calls.callers[position]? = some ⟨slot, given⟩) :
    ∃ routes, (calls.run (positions.map .collect)).callers[position]? =
      some ⟨slot, some routes⟩ := by
  induction positions generalizing calls given with
  | nil => simp at hmem
  | cons first positions ih =>
      have hnext := sound_collect hsound first
      by_cases hfirst : position = first
      · subst hfirst
        obtain ⟨routes, hserved⟩ := served_collect hsound horderly hidle hcaller
        exact ⟨routes, (precedes_run hnext (positions.map .collect)).served hserved⟩
      · obtain ⟨later, hkept⟩ := (precedes_collect calls first).joined hcaller
        exact ih hnext (orderly_step horderly (.collect first))
          ((loading_collect calls first).trans hidle)
          (List.mem_of_ne_of_mem hfirst hmem) hkept

/-- When the calls under way have come to their ends, every caller has routes. -/
theorem served_settle {calls : Calls} (hsound : calls.Sound)
    (horderly : calls.Orderly) {position slot : Nat}
    {given : Option (List Resolved)}
    (hcaller : calls.callers[position]? = some ⟨slot, given⟩) :
    ∃ routes, calls.settle.callers[position]? = some ⟨slot, some routes⟩ := by
  rw [settle_eq_run, settling, run_append]
  obtain ⟨later, hkept⟩ := (precedes_run hsound calls.endings).joined hcaller
  have hlt := (List.getElem?_eq_some_iff.mp hcaller).1
  exact served_run_collect (sound_run hsound _) (orderly_run horderly _)
    calls.loading_run_endings (List.mem_range.mpr hlt) hkept

/-! ## A call from its beginning to its end -/

/-- A call begins with its arrival, and the calls under way may go on at once. -/
theorem begin_eq_run (calls : Calls) :
    ∃ events, (∀ event ∈ events, event.GoesOn) ∧
      calls.begin = calls.arrive.run events := by
  unfold begin
  simp only
  split
  next => exact ⟨_, calls.arrive.settling_goesOn, calls.arrive.settle_eq_run⟩
  next => exact ⟨[], by simp, rfl⟩

/-- A call ends as its caller is served, after steps of the calls under way. -/
theorem list_served {calls : Calls} (hsound : calls.Sound)
    (horderly : calls.Orderly) {slot : Nat}
    (hcaller : calls.arrive.callers[calls.callers.length]? = some ⟨slot, none⟩) :
    ∃ events, (∀ event ∈ events, event.GoesOn) ∧
      (calls.arrive.run events).callers[calls.callers.length]? =
        some ⟨slot, some calls.list.1⟩ := by
  obtain ⟨first, hfirst, hbegin⟩ := calls.begin_eq_run
  have harrived := sound_arrive hsound
  obtain ⟨given, hkept⟩ := (precedes_run harrived first).joined hcaller
  rw [← hbegin] at hkept
  have hbegun : calls.begin.Sound ∧ calls.begin.Orderly := by
    rw [hbegin]
    exact ⟨sound_run harrived first, orderly_run (orderly_arrive horderly) first⟩
  obtain ⟨routes, hserved⟩ := served_settle hbegun.1 hbegun.2 hkept
  have hgoes : ∀ event ∈ first ++ calls.begin.settling, event.GoesOn := by
    intro event hevent
    exact (List.mem_append.mp hevent).elim (hfirst event)
      (settling_goesOn _ event)
  have hfinal : calls.begin.settle =
      calls.arrive.run (first ++ calls.begin.settling) := by
    rw [run_append, ← hbegin, settle_eq_run]
  have hlength : calls.begin.settle.callers.length = calls.callers.length + 1 := by
    obtain ⟨joined, hcallers⟩ := calls.callers_arrive
    rw [hfinal, length_callers_run_of_goesOn _ hgoes, hcallers, List.length_append,
      List.length_singleton]
  have hlist : calls.list.1 = routes := by
    have hlast : calls.begin.settle.callers.getLast? =
        some ⟨slot, some routes⟩ := by
      rw [List.getLast?_eq_getElem?, hlength, Nat.add_sub_cancel, hserved]
    simp [list, answers, List.getLast?_map, hlast]
  exact ⟨_, hgoes, by rw [← hfinal, hlist, hserved]⟩

theorem outcomeNow_of_available {calls : Calls}
    (havailable : calls.store.routesUnavailable = false) :
    calls.outcomeNow =
      some (resolveRows (calls.store.routes.filter Row.enabled)).1 := by
  simp [outcomeNow, Store.Memory.readRoutes, havailable]

theorem eq_resolveRows_of_outcomeNow {calls : Calls} {routes : List Resolved}
    (houtcome : calls.outcomeNow = some routes) :
    routes = (resolveRows (calls.store.routes.filter Row.enabled)).1 := by
  obtain ⟨rows, hread, rfl⟩ := outcomeNow_eq_some_iff.mp houtcome
  unfold Store.Memory.readRoutes at hread
  split at hread
  next => simp at hread
  next => rw [← Except.ok.inj hread]

/-- Who comes waits on a slot that was living before, or on one without outcome. -/
theorem exists_slot_of_arrive {calls : Calls} (horderly : calls.Orderly) :
    ∃ slot, calls.arrive.callers[calls.callers.length]? = some ⟨slot, none⟩ ∧
      ∀ created outcome,
        calls.arrive.cache.slots[slot]? = some ⟨created, .ended outcome⟩ →
          calls.cache.living? calls.now = some slot ∧
          calls.cache.slots[slot]? = some ⟨created, .ended outcome⟩ ∧
          outcome ≠ none := by
  rcases calls.arrive_cases with
    ⟨slot, held, hinstalled, hslot, hyoung, h⟩ | ⟨-, h⟩
  · refine ⟨slot, by simp [h], ?_⟩
    intro created outcome hended
    rw [h] at hended
    refine ⟨by simp [Cache.living?, hinstalled, hslot, hyoung], hended, ?_⟩
    rintro rfl
    exact horderly.unfailed slot created hinstalled hended
  · refine ⟨calls.cache.slots.length, by simp [h], ?_⟩
    intro created outcome hended
    simp [h, Cache.withFresh] at hended

/-- A call counts a load, and leaves the rows of the store alone. -/
theorem store_arrive (calls : Calls) :
    calls.arrive.store.routesUnavailable = calls.store.routesUnavailable ∧
      calls.arrive.store.routes = calls.store.routes := by
  rcases calls.arrive_cases with ⟨_, _, -, -, -, h⟩ | ⟨-, h⟩
  · rw [h]
    exact ⟨rfl, rfl⟩
  · rw [h]
    exact ⟨rfl, rfl⟩

/-- What a call gets, if the store is available: its slot has had its routes when
the call came, or they are those of the rows that the store has now. -/
theorem list_cases {calls : Calls} (hsound : calls.Sound)
    (horderly : calls.Orderly)
    (havailable : calls.store.routesUnavailable = false) :
    (∃ slot created, calls.cache.living? calls.now = some slot ∧
      calls.cache.slots[slot]? = some ⟨created, .ended (some calls.list.1)⟩) ∨
    calls.list.1 = (resolveRows (calls.store.routes.filter Row.enabled)).1 := by
  obtain ⟨slot, hcaller, hbefore⟩ := exists_slot_of_arrive horderly
  obtain ⟨hstays, hrows⟩ := calls.store_arrive
  obtain ⟨events, hgoes, hserved⟩ := list_served hsound horderly hcaller
  have hfinal : (calls.arrive.run events).Sound :=
    sound_run (sound_arrive hsound) events
  obtain ⟨created, outcome, hended, houtcome⟩ :=
    hfinal.served _ (List.mem_of_getElem? hserved) _ rfl
  rcases outcome_run events hended with hold | ⟨earlier, later, rfl, -, hnow⟩
  · obtain ⟨hliving, hslot, hsucceeded⟩ := hbefore created outcome hold
    obtain rfl := houtcome.resolve_right hsucceeded
    exact Or.inl ⟨slot, created, hliving, hslot⟩
  · right
    have hstore : (calls.arrive.run earlier).store = calls.arrive.store :=
      store_run_of_goesOn _ fun event hevent =>
        hgoes event (List.mem_append_left _ hevent)
    rw [outcomeNow_of_available (by rw [hstore, hstays, havailable]), hstore,
      hrows] at hnow
    have hroutes := houtcome.resolve_right (by simp [hnow])
    rw [hnow] at hroutes
    exact (Option.some.inj hroutes).symm

end Calls

end EdgeGateway.Route
