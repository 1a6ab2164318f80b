import EdgeGateway.Proofs.Route.SingleFlight

/-!
# Outages of the store

A call is answered whatever the store does.  If the load of its slot fails, it
gets the routes of the load that has succeeded last, which no invalidation takes
away.  The slot of a failed load is gone before the next call comes.
-/

namespace EdgeGateway.Route

theorem Cache.fallback_routes (cache : Cache) :
    cache.fallback.1 = cache.lastGood.getD [] := by
  unfold fallback
  cases cache.lastGood <;> rfl

namespace Calls

/-- The routes of a load that succeeds in a step. -/
def loaded (calls : Calls) : Event → List (List Resolved)
  | .finish slot => if slot ∈ calls.loading then calls.outcomeNow.toList else []
  | _ => []

/-! ## The last load that has succeeded -/

theorem lastGood_finish (calls : Calls) (slot : Nat) :
    (calls.finish slot).cache.lastGood =
      (calls.loaded (.finish slot)).getLast?.or calls.cache.lastGood := by
  rcases calls.finish_cases slot with
    ⟨hidle, h⟩ | ⟨hloading, ⟨rows, hread, h⟩ | ⟨error, hread, h⟩⟩
  · rw [h]
    simp [loaded, hidle]
  · rw [h]
    simp [loaded, hloading, outcomeNow, hread, Cache.withRoutes]
  · rw [h]
    simp [loaded, hloading, outcomeNow, hread, Cache.withFailure, Cache.endLoad]

theorem lastGood_step (calls : Calls) (event : Event) :
    (calls.step event).cache.lastGood =
      (calls.loaded event).getLast?.or calls.cache.lastGood := by
  cases event with
  | arrive =>
      rcases calls.arrive_cases with ⟨_, _, -, -, -, h⟩ | ⟨-, h⟩ <;>
        rw [step, h] <;> rfl
  | finish slot => exact lastGood_finish calls slot
  | collect position =>
      rw [step, cache_collect]
      rfl
  | _ => rfl

/-- A cache keeps the routes of the last load that has succeeded in a run. -/
theorem lastGood_run (start : Calls) (events : List Event) :
    (start.run events).cache.lastGood =
      (chronicle step loaded start events).getLast?.or start.cache.lastGood := by
  induction events using List.reverseRecOn with
  | nil => rfl
  | append_singleton events event ih =>
      rw [run_concat, lastGood_step, ih, told_concat, List.getLast?_append,
        Option.or_assoc]

/-- Who was served after a failed load has the routes of the load that had
succeeded last by then. -/
theorem routes_of_failed {start : Calls} (hsound : start.Sound)
    (hcallers : start.callers = []) (hnever : start.cache.lastGood = none)
    {events : List Event} {position slot : Nat} {created : Instant}
    {routes : List Resolved}
    (hcaller : (start.run events).callers[position]? = some ⟨slot, some routes⟩)
    (hfailed : (start.run events).cache.slots[slot]? =
      some ⟨created, .ended none⟩) :
    ∃ earlier later, events = earlier ++ .collect position :: later ∧
      routes = (chronicle step loaded start earlier).getLast?.getD [] := by
  obtain ⟨_, outcome, hslot, earlier, later, hevents, -, hroutes⟩ :=
    servedIn_slot hsound hcallers hcaller
  obtain ⟨-, rfl⟩ : _ = created ∧ outcome = none := by
    simpa [hfailed] using hslot.symm
  refine ⟨earlier, later, hevents, hroutes.trans ?_⟩
  rw [Option.getD_none, Cache.fallback_routes, lastGood_run, hnever, Option.or_none]

/-! ## Calls in an outage -/

/-- A caller has its routes, or gets them as soon as the load of its slot ends. -/
theorem answered_after_finish {calls : Calls} (hsound : calls.Sound)
    (horderly : calls.Orderly) {position : Nat} {caller : Caller}
    (hcaller : calls.callers[position]? = some caller) :
    ∃ routes, ((calls.finish caller.slot).collect position).callers[position]? =
      some ⟨caller.slot, some routes⟩ := by
  obtain ⟨slot, given⟩ := caller
  cases given with
  | none => exact served_after_finish hsound horderly hcaller
  | some routes =>
      have hlater := (precedes_finish hsound slot).trans (precedes_collect _ position)
      exact ⟨routes, hlater.served hcaller⟩

/-- Whoever comes after a failed load joins a newer slot or begins the load of
one. -/
theorem joins_after_failure {calls : Calls} (hsound : calls.Sound)
    (horderly : calls.Orderly) {slot : Nat} {created : Instant}
    (hfailed : calls.cache.slots[slot]? = some ⟨created, .ended none⟩) :
    ∃ joined, calls.arrive.callers[calls.callers.length]? = some ⟨joined, none⟩ ∧
      slot < joined ∧
      (calls.begun .arrive = [joined] ∨ calls.cache.installed = some joined) := by
  have hlt := (List.getElem?_eq_some_iff.mp hfailed).1
  rcases begun_cases hsound .arrive with ⟨-, hlength, -⟩ | ⟨-, hdead, hbegun, -⟩
  · rcases calls.arrive_cases with ⟨joined, _, hinstalled, -, -, h⟩ | ⟨-, h⟩
    · refine ⟨joined, by simp [h], ?_, Or.inr hinstalled⟩
      have hnewest := horderly.newest joined hinstalled
      have hother : slot ≠ joined := by
        rintro rfl
        exact horderly.unfailed slot created hinstalled hfailed
      omega
    · simp [step, h, Cache.withFresh] at hlength
  · exact ⟨calls.cache.slots.length, by simp [arrive_of_dead hdead], hlt,
      Or.inl hbegun⟩

/-- Every call is answered.  If the load of its slot has failed, the answer is
the list of the load that had succeeded last when the call returned, or the empty
list if there was none, and an invalidation changes nothing about that.  No call
that comes after a failed load is answered by that load. -/
theorem calls_answered_in_outage (now : Instant) (ttl : Duration)
    (store : Store.Memory) (events : List Event) :
    let start := opened now ttl store
    let final := start.run events
    (∀ position caller, final.callers[position]? = some caller →
      ∃ routes, ((final.finish caller.slot).collect position).callers[position]? =
        some ⟨caller.slot, some routes⟩) ∧
    (∀ position slot created routes,
      final.callers[position]? = some ⟨slot, some routes⟩ →
      final.cache.slots[slot]? = some ⟨created, .ended none⟩ →
        ∃ earlier later, events = earlier ++ .collect position :: later ∧
          routes = (chronicle step loaded start earlier).getLast?.getD []) ∧
    (final.step .invalidate).cache.fallback.1 =
      (chronicle step loaded start events).getLast?.getD [] ∧
    ∀ slot created, final.cache.slots[slot]? = some ⟨created, .ended none⟩ →
      ∀ after : List Event, ∃ caller,
        (final.arrive.run after).callers[final.callers.length]? = some caller ∧
          slot < caller.slot ∧
          (final.begun .arrive = [caller.slot] ∨
            final.cache.installed = some caller.slot) := by
  intro start final
  have hstart : start.Sound := sound_opened now ttl store
  have hfinal : final.Sound := sound_run hstart events
  have horderly : final.Orderly := orderly_run (orderly_opened now ttl store) events
  refine ⟨fun position caller => answered_after_finish hfinal horderly,
    fun position slot created routes => routes_of_failed hstart rfl rfl, ?_, ?_⟩
  · change final.cache.fallback.1 = _
    rw [Cache.fallback_routes, lastGood_run]
    exact congrArg (Option.getD · []) Option.or_none
  · intro slot created hfailed after
    obtain ⟨joined, hjoined, hnewer, hload⟩ :=
      joins_after_failure hfinal horderly hfailed
    obtain ⟨given, hcaller⟩ :=
      (precedes_run (sound_arrive hfinal) after).joined hjoined
    exact ⟨⟨joined, given⟩, hcaller, hnewer, hload⟩

/-- A list has been loaded before the store fails; the first caller has not been
served yet. -/
def blackout : List Event :=
  [.arrive, .finish 0, .invalidate, .setUnavailable true, .arrive, .finish 1,
    .collect 1]

theorem blackout_serves_orders :
    let start := opened .start (.ofMinutes 5) { routes := [ordersRow] }
    let final := start.run blackout
    (∃ routes, ((final.finish 0).collect 0).callers[0]? = some ⟨0, some routes⟩) ∧
      (∃ earlier later, blackout = earlier ++ .collect 1 :: later ∧
        (resolveRows [ordersRow]).1 =
          (chronicle step loaded start earlier).getLast?.getD []) ∧
      ∃ caller, (final.arrive.run [.invalidate]).callers[2]? = some caller ∧
        1 < caller.slot := by
  obtain ⟨hanswered, hstale, -, hnewer⟩ := calls_answered_in_outage .start
    (.ofMinutes 5) { routes := [ordersRow] } blackout
  obtain ⟨caller, hcaller, hslot, -⟩ := hnewer 1 .start rfl [.invalidate]
  exact ⟨hanswered 0 ⟨0, none⟩ rfl,
    hstale 1 1 .start (resolveRows [ordersRow]).1 rfl rfl, caller, hcaller, hslot⟩

end Calls

end EdgeGateway.Route
