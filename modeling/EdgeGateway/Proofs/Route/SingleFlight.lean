import EdgeGateway.Proofs.Chronicle
import EdgeGateway.Proofs.Route.Freshness
import EdgeGateway.Proofs.Route.Serving

/-!
# One load for each slot

A slot is loaded once, by the call that installs it; whoever finds it young joins
that load.  A load therefore needs a reason: the first call, an invalidation, a
slot that has become too old, or a load that has failed.  A slot ages from its
installation on, so a load that takes longer than the lifetime of its slot does
not keep a second one from beginning.
-/

namespace EdgeGateway.Route

def Event.isInvalidate : Event → Bool
  | .invalidate => true
  | _ => false

namespace Calls

/-- The slots whose loads begin in a step. -/
def begun (calls : Calls) (event : Event) : List Nat :=
  (calls.step event).loading.filter (· ∉ calls.loading)

/-- The installed slot, if the caller who comes finds it too old. -/
def expired (calls : Calls) : Event → List Nat
  | .arrive => calls.cache.installed.toList.filter fun position =>
      (calls.cache.slots[position]?).any fun slot =>
        slot.isExpired calls.cache.ttl calls.now
  | _ => []

/-- The slots whose loads fail in a step. -/
def failed (calls : Calls) : Event → List Nat
  | .finish slot =>
      if slot ∈ calls.loading ∧ calls.outcomeNow = none then [slot] else []
  | _ => []

/-! ## The loads of a run -/

theorem begun_eq_nil {calls : Calls} {event : Event}
    (hfewer : (calls.step event).loading ⊆ calls.loading) :
    calls.begun event = [] := by
  refine List.filter_eq_nil_iff.mpr fun slot hslot => ?_
  simpa using hfewer hslot

/-- A call that finds no living slot begins the load of the next one. -/
theorem begun_of_dead {calls : Calls} (hsound : calls.Sound)
    (hdead : calls.cache.living? calls.now = none) :
    calls.begun .arrive = [calls.cache.slots.length] := by
  have hfresh : calls.cache.slots.length ∉ calls.loading := by
    intro hloading
    obtain ⟨created, hrunning⟩ := hsound.loading _ hloading
    simp at hrunning
  have hold : calls.loading.filter (· ∉ calls.loading) = [] := by simp
  rw [begun, step, arrive_of_dead hdead, List.filter_append, hold]
  simp [hfresh]

/-- A step begins no load, or it is a call that has found no living slot and
begins the load of the next one. -/
theorem begun_cases {calls : Calls} (hsound : calls.Sound) (event : Event) :
    (calls.begun event = [] ∧
      (calls.step event).cache.slots.length = calls.cache.slots.length ∧
      (calls.step event).store.routeLoads = calls.store.routeLoads) ∨
    (event = .arrive ∧ calls.cache.living? calls.now = none ∧
      calls.begun event = [calls.cache.slots.length] ∧
      (calls.step event).cache.slots.length = calls.cache.slots.length + 1 ∧
      (calls.step event).store.routeLoads = calls.store.routeLoads + 1) := by
  cases event with
  | arrive =>
      rcases calls.arrive_cases with ⟨_, _, -, -, -, h⟩ | ⟨hdead, h⟩
      · left
        have hsame : (calls.step .arrive).loading ⊆ calls.loading := by
          rw [step, h]
          exact fun _ hslot => hslot
        exact ⟨begun_eq_nil hsame, by rw [step, h], by rw [step, h]⟩
      · exact Or.inr ⟨rfl, hdead, begun_of_dead hsound hdead,
          by simp [step, h, Cache.withFresh], by rw [step, h]; rfl⟩
  | finish slot =>
      have hfewer : (calls.step (.finish slot)).loading ⊆ calls.loading := by
        rw [step, loading_finish]
        exact fun _ hslot => (List.mem_filter.mp hslot).1
      exact Or.inl ⟨begun_eq_nil hfewer, length_slots_finish calls slot,
        by rw [step, store_finish]⟩
  | collect position =>
      have hsame : (calls.step (.collect position)).loading ⊆ calls.loading := by
        rw [step, loading_collect]
        exact fun _ hslot => hslot
      exact Or.inl ⟨begun_eq_nil hsame, by rw [step, cache_collect],
        by rw [step, store_collect]⟩
  | _ => exact Or.inl ⟨begun_eq_nil fun _ hslot => hslot, rfl, rfl⟩

theorem told_concat {Told : Type} (told : Calls → Event → List Told)
    (start : Calls) (events : List Event) (event : Event) :
    chronicle step told start (events ++ [event]) =
      chronicle step told start events ++ told (start.run events) event :=
  chronicle_concat step told start events event

/-- The loads that begin in a run are those of its slots, each once and in order,
and the store counts them. -/
theorem begun_run {start : Calls} (hsound : start.Sound)
    (hempty : start.cache.slots = []) (events : List Event) :
    chronicle step begun start events =
        List.range (start.run events).cache.slots.length ∧
      (start.run events).store.routeLoads =
        start.store.routeLoads + (start.run events).cache.slots.length := by
  induction events using List.reverseRecOn with
  | nil => simp [run, chronicle, hempty]
  | append_singleton events event ih =>
      obtain ⟨hbegun, hloads⟩ := ih
      rw [told_concat, hbegun, run_concat]
      rcases begun_cases (sound_run hsound events) event with
        ⟨hnone, hlength, hsame⟩ | ⟨-, -, hone, hlength, hmore⟩
      · rw [hnone, hlength, hsame, List.append_nil]
        exact ⟨rfl, hloads⟩
      · rw [hone, hlength, hmore, List.range_succ]
        exact ⟨rfl, by omega⟩

/-- A call that finds a young slot joins it and changes nothing else. -/
theorem arrive_of_young {calls : Calls} (hsound : calls.Sound) {position : Nat}
    {slot : LoadSlot} (hinstalled : calls.cache.installed = some position)
    (hslot : calls.cache.slots[position]? = some slot)
    (hyoung : calls.now.nanos < slot.createdAt.nanos + calls.cache.ttl.nanos) :
    calls.arrive =
      { calls with callers := calls.callers ++ [⟨position, none⟩] } := by
  have hcreated := hsound.created slot (List.mem_of_getElem? hslot)
  have hfresh : slot.isExpired calls.cache.ttl calls.now = false := by
    rw [← Bool.not_eq_true, LoadSlot.isExpired_iff hcreated]
    exact Nat.not_le.mpr hyoung
  rcases calls.arrive_cases with
    ⟨installed, held, hinstalled', hheld, -, h⟩ | ⟨hdead, -⟩
  · obtain rfl : position = installed := by simpa [hinstalled] using hinstalled'
    exact h
  · simp [Cache.living?, hinstalled, hslot, hfresh] at hdead

/-! ## What a load needs -/

/-- One if no slot is installed: a reason for a load that is still unused. -/
def vacancy (calls : Calls) : Nat :=
  if calls.cache.installed = none then 1 else 0

theorem vacancy_le_one (calls : Calls) : calls.vacancy ≤ 1 := by
  unfold vacancy
  split <;> omega

/-- Who has to begin a load has found no slot, or one that was too old. -/
theorem vacant_or_expired {calls : Calls} (hsound : calls.Sound)
    (hdead : calls.cache.living? calls.now = none) :
    1 ≤ calls.vacancy + (calls.expired .arrive).length := by
  cases hinstalled : calls.cache.installed with
  | none => simp [vacancy, hinstalled]
  | some position =>
      obtain ⟨held, hheld⟩ : ∃ held, calls.cache.slots[position]? = some held :=
        ⟨_, List.getElem?_eq_getElem (hsound.installed position hinstalled)⟩
      cases hold : held.isExpired calls.cache.ttl calls.now with
      | false => simp [Cache.living?, hinstalled, hheld, hold] at hdead
      | true => simp [expired, hinstalled, hheld, hold]

/-- A slot goes by an invalidation or with its failed load. -/
theorem vacancy_finish_le (calls : Calls) (slot : Nat) :
    (calls.finish slot).vacancy ≤
      calls.vacancy + (calls.failed (.finish slot)).length := by
  by_cases hfails : slot ∈ calls.loading ∧ calls.outcomeNow = none
  · have hone := vacancy_le_one (calls.finish slot)
    simp only [failed, if_pos hfails, List.length_singleton]
    omega
  · have hkept : (calls.finish slot).cache.installed = calls.cache.installed := by
      rcases calls.finish_cases slot with
        ⟨-, h⟩ | ⟨hloading, ⟨rows, -, h⟩ | ⟨error, hread, -⟩⟩
      · rw [h]
      · rw [h]
        rfl
      · exact absurd ⟨hloading, by simp [outcomeNow, hread]⟩ hfails
    rw [vacancy, hkept]
    exact Nat.le_add_right _ _

/-- Together the loads that have begun and the missing slot are no more than the
reasons for a load. -/
theorem begun_step_le {calls : Calls} (hsound : calls.Sound) (event : Event) :
    (calls.begun event).length + (calls.step event).vacancy ≤
      calls.vacancy + (if event.isInvalidate then 1 else 0) +
        (calls.expired event).length + (calls.failed event).length := by
  rcases begun_cases hsound event with
    ⟨hnone, -, -⟩ | ⟨rfl, hdead, hone, -, -⟩
  · -- Of the steps that begin no load, a failing load and an invalidation may take
    -- the slot away, and each is counted.
    rw [hnone, List.length_nil, Nat.zero_add]
    have hmore : calls.vacancy ≤
        calls.vacancy + (if event.isInvalidate then 1 else 0) +
          (calls.expired event).length + (calls.failed event).length := by
      omega
    cases event with
    | arrive =>
        refine Nat.le_trans ?_ hmore
        rcases calls.arrive_cases with ⟨_, _, -, -, -, h⟩ | ⟨-, h⟩
        · rw [step, h]
          exact Nat.le_refl _
        · simp [step, h, vacancy, Cache.withFresh]
    | finish slot => exact vacancy_finish_le calls slot
    | collect position =>
        rw [step, vacancy, cache_collect]
        exact hmore
    | invalidate =>
        have hgone := vacancy_le_one (calls.step .invalidate)
        simp only [Event.isInvalidate, if_true]
        omega
    | _ => exact hmore
  · have hreason := vacant_or_expired hsound hdead
    have hinstalled : calls.arrive.vacancy = 0 := by
      simp [arrive_of_dead hdead, vacancy, Cache.withFresh]
    rw [hone, List.length_singleton, step, hinstalled]
    omega

/-- Over a run, at most one load more has begun than there were invalidations,
slots found too old and failed loads. -/
theorem begun_run_le {start : Calls} (hsound : start.Sound) (events : List Event) :
    (chronicle step begun start events).length + (start.run events).vacancy ≤
      start.vacancy + events.countP Event.isInvalidate +
        (chronicle step expired start events).length +
        (chronicle step failed start events).length := by
  induction events using List.reverseRecOn with
  | nil => simp [chronicle, run]
  | append_singleton events event ih =>
      have hstep := begun_step_le (sound_run hsound events) event
      simp only [told_concat, run_concat, List.length_append, List.countP_append,
        List.countP_singleton]
      omega

/-! ### No slot is counted twice -/

theorem expired_cases (calls : Calls) (event : Event) :
    calls.expired event = [] ∨
      ∃ position, event = .arrive ∧ calls.cache.installed = some position ∧
        calls.cache.living? calls.now = none ∧
        calls.expired event = [position] := by
  cases event with
  | arrive =>
      rcases calls.arrive_cases with
        ⟨position, slot, hinstalled, hslot, hyoung, -⟩ | ⟨hdead, -⟩
      · exact Or.inl (by simp [expired, hinstalled, hslot, hyoung])
      · cases hinstalled : calls.cache.installed with
        | none => exact Or.inl (by simp [expired, hinstalled])
        | some position =>
            rcases Bool.eq_false_or_eq_true ((calls.cache.slots[position]?).any
              fun slot => slot.isExpired calls.cache.ttl calls.now) with hold | hyoung
            · exact Or.inr ⟨position, rfl, rfl, hdead, by
                simp [expired, hinstalled, hold]⟩
            · exact Or.inl (by simp [expired, hinstalled, hyoung])
  | _ => exact Or.inl rfl

/-- The slots that have been found too old have given way to newer ones. -/
theorem expired_run {start : Calls} (hsound : start.Sound)
    (horderly : start.Orderly) (events : List Event) :
    (chronicle step expired start events).Nodup ∧
      ∀ slot ∈ chronicle step expired start events,
        slot + 1 < (start.run events).cache.slots.length := by
  induction events using List.reverseRecOn with
  | nil => simp [chronicle]
  | append_singleton events event ih =>
      obtain ⟨hnodup, hnewer⟩ := ih
      have hreached := sound_run hsound events
      have hgrows := (precedes_step hreached event).slots.length_le
      rw [told_concat, run_concat]
      rcases expired_cases (start.run events) event with
        hnone | ⟨position, rfl, hinstalled, hdead, hone⟩
      · rw [hnone, List.append_nil]
        exact ⟨hnodup, fun slot hslot =>
          Nat.lt_of_lt_of_le (hnewer slot hslot) hgrows⟩
      · have hnewest := (orderly_run horderly events).newest position hinstalled
        have hfresh : ((start.run events).step .arrive).cache.slots.length =
            (start.run events).cache.slots.length + 1 := by
          simp [step, arrive_of_dead hdead, Cache.withFresh]
        rw [hone, hfresh]
        refine ⟨List.nodup_append.mpr ⟨hnodup, by simp, ?_⟩, ?_⟩
        · intro slot hslot other hother
          have := hnewer slot hslot
          obtain rfl := List.mem_singleton.mp hother
          omega
        · intro slot hslot
          rcases List.mem_append.mp hslot with hold | hnew
          · have := hnewer slot hold
            omega
          · obtain rfl := List.mem_singleton.mp hnew
            omega

theorem failed_cases (calls : Calls) (event : Event) :
    calls.failed event = [] ∨
      ∃ slot, event = .finish slot ∧ slot ∈ calls.loading ∧
        calls.outcomeNow = none ∧ calls.failed event = [slot] := by
  cases event with
  | finish slot =>
      by_cases hfails : slot ∈ calls.loading ∧ calls.outcomeNow = none
      · exact Or.inr ⟨slot, rfl, hfails.1, hfails.2, if_pos hfails⟩
      · exact Or.inl (if_neg hfails)
  | _ => exact Or.inl rfl

/-- The slots whose loads have failed stay without routes. -/
theorem failed_run {start : Calls} (hsound : start.Sound) (events : List Event) :
    (chronicle step failed start events).Nodup ∧
      ∀ slot ∈ chronicle step failed start events,
        ∃ created, (start.run events).cache.slots[slot]? =
          some ⟨created, .ended none⟩ := by
  induction events using List.reverseRecOn with
  | nil => simp [chronicle]
  | append_singleton events event ih =>
      obtain ⟨hnodup, hended⟩ := ih
      have hreached := sound_run hsound events
      have hkept : ∀ slot ∈ chronicle step failed start events,
          ∃ created, ((start.run events).step event).cache.slots[slot]? =
            some ⟨created, .ended none⟩ := by
        intro slot hslot
        obtain ⟨created, hheld⟩ := hended slot hslot
        exact ⟨created, (precedes_step hreached event).ended hheld⟩
      rw [told_concat, run_concat]
      rcases failed_cases (start.run events) event with
        hnone | ⟨slot, rfl, hloading, hfails, hone⟩
      · rw [hnone, List.append_nil]
        exact ⟨hnodup, hkept⟩
      · obtain ⟨created, hrunning⟩ := hreached.loading slot hloading
        rw [hone]
        refine ⟨List.nodup_append.mpr ⟨hnodup, by simp, ?_⟩, ?_⟩
        · rintro old hold _ hnew rfl
          obtain rfl := List.mem_singleton.mp hnew
          obtain ⟨_, hheld⟩ := hended old hold
          simp [hrunning] at hheld
        · intro old hold
          rcases List.mem_append.mp hold with hearlier | hnew
          · exact hkept old hearlier
          · obtain rfl := List.mem_singleton.mp hnew
            refine ⟨created, ?_⟩
            rw [step, getElem?_finish, if_pos ⟨hloading, rfl⟩, hrunning, hfails]
            rfl

/-! ### The outcome of the one load -/

/-- What a caller has got is the outcome of its slot, by which it was served. -/
theorem servedIn_slot {start : Calls} (hsound : start.Sound)
    (hempty : start.callers = []) {events : List Event} {position slot : Nat}
    {routes : List Resolved}
    (hcaller : (start.run events).callers[position]? = some ⟨slot, some routes⟩) :
    ∃ created outcome,
      (start.run events).cache.slots[slot]? = some ⟨created, .ended outcome⟩ ∧
        ServedIn start events position slot outcome routes := by
  obtain ⟨outcome, hserved⟩ :=
    (servedIn_of_served events hcaller).resolve_left (by simp [hempty])
  obtain ⟨created, hslot⟩ := hserved.outcome hsound
  exact ⟨created, outcome, hslot, hserved⟩

/-- Each slot is loaded once, and these are all the loads of the store.  A call
that finds a young slot starts none, whether the slot is still being loaded or
not.  All callers of a slot get the outcome of its load.  So there are at most
as many loads as there were invalidations, slots found too old and failed loads,
and one more. -/
theorem one_load_per_slot (now : Instant) (ttl : Duration) (store : Store.Memory)
    (events : List Event) :
    let start := opened now ttl store
    let final := start.run events
    (chronicle step begun start events = List.range final.cache.slots.length ∧
      final.store.routeLoads = store.routeLoads + final.cache.slots.length) ∧
    (∀ slot held, final.cache.installed = some slot →
      final.cache.slots[slot]? = some held →
      final.now.nanos < held.createdAt.nanos + ttl.nanos →
        final.arrive =
          { final with callers := final.callers ++ [⟨slot, none⟩] }) ∧
    (∀ position slot routes,
      final.callers[position]? = some ⟨slot, some routes⟩ →
        ∃ created outcome,
          final.cache.slots[slot]? = some ⟨created, .ended outcome⟩ ∧
            ServedIn start events position slot outcome routes) ∧
    (∀ position slot created outcome,
      final.callers[position]? = some ⟨slot, none⟩ →
      final.cache.slots[slot]? = some ⟨created, .ended outcome⟩ →
        (final.collect position).callers[position]? =
          some ⟨slot, some (outcome.getD final.cache.fallback.1)⟩) ∧
    (chronicle step expired start events).Nodup ∧
    (chronicle step failed start events).Nodup ∧
    final.store.routeLoads ≤
      store.routeLoads + 1 + events.countP Event.isInvalidate +
        (chronicle step expired start events).length +
        (chronicle step failed start events).length := by
  intro start final
  have hstart : start.Sound := sound_opened now ttl store
  have hloads := begun_run hstart rfl events
  have hbound := begun_run_le hstart events
  refine ⟨hloads, ?_, fun position slot routes => servedIn_slot hstart rfl,
    fun position slot created outcome => callers_collect_of_ended,
    (expired_run hstart (orderly_opened now ttl store) events).1,
    (failed_run hstart events).1, ?_⟩
  · intro slot held hinstalled hheld hyoung
    have httl : final.cache.ttl = ttl := (precedes_run hstart events).ttl
    exact arrive_of_young (sound_run hstart events) hinstalled hheld
      (by rwa [httl])
  · have hcount : final.store.routeLoads =
        store.routeLoads + final.cache.slots.length := hloads.2
    rw [hloads.1, List.length_range, show start.vacancy = 1 from rfl] at hbound
    change final.cache.slots.length + final.vacancy ≤ _ at hbound
    omega

/-- Two callers share a load, another comes after an invalidation and finds the
store unavailable, and a last one tries again. -/
def rush : List Event :=
  [.arrive, .arrive, .finish 0, .collect 0, .collect 1, .invalidate,
    .setUnavailable true, .arrive, .finish 1, .collect 2, .arrive]

theorem rush_loads_three_times :
    let start := opened .start (.ofMinutes 5) { routes := [ordersRow] }
    let final := start.run rush
    let retried := start.run (rush ++ [.finish 2])
    final.store.routeLoads = 3 ∧
      1 + rush.countP Event.isInvalidate +
        (chronicle step expired start rush).length +
        (chronicle step failed start rush).length = 3 ∧
      final.arrive = { final with callers := final.callers ++ [⟨2, none⟩] } ∧
      (∃ outcome, ServedIn start rush 1 0 outcome (resolveRows [ordersRow]).1) ∧
      (retried.collect 3).callers[3]? = some ⟨2, some retried.cache.fallback.1⟩ := by
  obtain ⟨-, hjoins, hserved, -⟩ :=
    one_load_per_slot .start (.ofMinutes 5) { routes := [ordersRow] } rush
  obtain ⟨-, -, -, hcollected, -⟩ := one_load_per_slot .start (.ofMinutes 5)
    { routes := [ordersRow] } (rush ++ [.finish 2])
  obtain ⟨_, outcome, -, hshared⟩ :=
    hserved 1 0 (resolveRows [ordersRow]).1 rfl
  have hgiven := hcollected 3 2 .start none rfl rfl
  rw [Option.getD_none] at hgiven
  exact ⟨rfl, rfl, hjoins 2 ⟨.start, .running⟩ rfl rfl (by decide),
    ⟨outcome, hshared⟩, hgiven⟩

/-! ## Loads side by side -/

/-- A slot is still installed, unless its load has ended or it is too old. -/
def StaysUnless (slot : Nat) (created : Instant) (calls : Calls) : Prop :=
  calls.cache.installed = some slot ∨ slot ∉ calls.loading ∨
    created.nanos + calls.cache.ttl.nanos ≤ calls.now.nanos

/-- A call replaces the installed slot only if that has become too old. -/
theorem staysUnless_arrive {calls : Calls} (hsound : calls.Sound) {slot : Nat}
    {created : Instant} {load : Load}
    (hslot : calls.cache.slots[slot]? = some ⟨created, load⟩)
    (hstays : StaysUnless slot created calls) :
    StaysUnless slot created calls.arrive := by
  rcases calls.arrive_cases with ⟨_, _, -, -, -, h⟩ | ⟨hdead, h⟩
  · rw [h]
    exact hstays
  rw [h]
  rcases hstays with hinstalled | hidle | hold
  · right
    right
    have hcreated := hsound.created _ (List.mem_of_getElem? hslot)
    have hexpired : LoadSlot.isExpired ⟨created, load⟩ calls.cache.ttl
        calls.now = true := by
      simpa [Cache.living?, hinstalled, hslot] using hdead
    exact (LoadSlot.isExpired_iff hcreated).mp hexpired
  · refine Or.inr (Or.inl fun hloading => ?_)
    rcases List.mem_append.mp hloading with hin | hnew
    · exact hidle hin
    · have hlt := (List.getElem?_eq_some_iff.mp hslot).1
      exact absurd (List.mem_singleton.mp hnew) (Nat.ne_of_lt hlt)
  · exact Or.inr (Or.inr hold)

/-- The end of a load takes no slot away but that of the load. -/
theorem staysUnless_finish {calls : Calls} (hsound : calls.Sound) {slot : Nat}
    {created : Instant} (hstays : StaysUnless slot created calls) (ended : Nat) :
    StaysUnless slot created (calls.finish ended) := by
  have hloading := loading_finish ended calls
  rcases hstays with hinstalled | hidle | hold
  · by_cases hsame : ended = slot
    · refine Or.inr (Or.inl ?_)
      rw [hloading]
      simp [hsame]
    · refine Or.inl ?_
      have hother : calls.cache.installed ≠ some ended := by
        rw [hinstalled]
        exact fun h => hsame (Option.some.inj h).symm
      rw [installed_finish_of_ne hother, hinstalled]
  · refine Or.inr (Or.inl fun hin => hidle ?_)
    rw [hloading] at hin
    exact (List.mem_filter.mp hin).1
  · refine Or.inr (Or.inr ?_)
    rw [now_finish, (precedes_finish hsound ended).ttl]
    exact hold

/-- Only an invalidation takes away a slot that is young and being loaded. -/
theorem staysUnless_step {calls : Calls} (hsound : calls.Sound) {slot : Nat}
    {created : Instant} {load : Load}
    (hslot : calls.cache.slots[slot]? = some ⟨created, load⟩)
    (hstays : StaysUnless slot created calls) {event : Event}
    (hkept : event ≠ .invalidate) : StaysUnless slot created (calls.step event) := by
  cases event with
  | arrive => exact staysUnless_arrive hsound hslot hstays
  | finish ended => exact staysUnless_finish hsound hstays ended
  | collect position =>
      rw [StaysUnless, step, cache_collect, loading_collect, now_collect]
      exact hstays
  | invalidate => exact absurd rfl hkept
  | wait span => exact hstays.imp_right (Or.imp_right (Nat.le_add_right_of_le ·))
  | _ => exact hstays

theorem staysUnless_run {start : Calls} (hsound : start.Sound) {slot : Nat}
    {created : Instant} {load : Load}
    (hslot : start.cache.slots[slot]? = some ⟨created, load⟩)
    (hinstalled : start.cache.installed = some slot) {events : List Event}
    (hkept : .invalidate ∉ events) :
    StaysUnless slot created (start.run events) := by
  induction events using List.reverseRecOn with
  | nil => exact Or.inl hinstalled
  | append_singleton events event ih =>
      rw [List.mem_append, List.mem_singleton, not_or] at hkept
      obtain ⟨later, hlater⟩ := (precedes_run hsound events).installed hslot
      rw [run_concat]
      exact staysUnless_step (sound_run hsound events) hlater (ih hkept.1)
        fun h => hkept.2 h.symm

/-- The load that a call begins is that of a slot installed at this moment. -/
theorem installed_of_begun {calls : Calls} (hsound : calls.Sound) {slot : Nat}
    (hbegun : calls.begun .arrive = [slot]) :
    calls.arrive.cache.installed = some slot ∧
      calls.arrive.cache.slots[slot]? = some ⟨calls.now, .running⟩ := by
  rcases begun_cases hsound .arrive with ⟨hnone, -⟩ | ⟨-, hdead, hone, -⟩
  · simp [hnone] at hbegun
  · obtain rfl : calls.cache.slots.length = slot := by
      simpa using hone.symm.trans hbegun
    simp [arrive_of_dead hdead, Cache.withFresh]

/-- A call that finds the newest slot too old begins another load beside those
that run. -/
theorem loading_arrive_of_old {calls : Calls} (horderly : calls.Orderly)
    {slot : Nat} {held : LoadSlot} (hslot : calls.cache.slots[slot]? = some held)
    (hnewest : slot + 1 = calls.cache.slots.length)
    (hold : held.createdAt.nanos + calls.cache.ttl.nanos ≤ calls.now.nanos) :
    calls.arrive.loading = calls.loading ++ [slot + 1] := by
  have hexpired : held.isExpired calls.cache.ttl calls.now = true :=
    (LoadSlot.isExpired_iff (by omega)).mpr hold
  have hdead : calls.cache.living? calls.now = none := by
    cases hinstalled : calls.cache.installed with
    | none => simp [Cache.living?, hinstalled]
    | some position =>
        obtain rfl : position = slot := by
          have := horderly.newest position hinstalled
          omega
        simp [Cache.living?, hinstalled, hslot, hexpired]
  rw [arrive_of_dead hdead, hnewest]

/-- While the load of a slot runs and no invalidation has come since it began,
calls join it for the lifetime of the slot and wait.  When the lifetime has
passed, the next call begins a second load beside the first. -/
theorem loads_overlap_only_after_lifetime (now : Instant) (ttl : Duration)
    (store : Store.Memory) (before middle : List Event) (slot : Nat) :
    let past := (opened now ttl store).run before
    let later := past.arrive.run middle
    past.begun .arrive = [slot] → .invalidate ∉ middle → slot ∈ later.loading →
      (later.now.nanos < past.now.nanos + ttl.nanos →
        later.arrive =
          { later with callers := later.callers ++ [⟨slot, none⟩] }) ∧
      (past.now.nanos + ttl.nanos ≤ later.now.nanos →
        slot + 1 = later.cache.slots.length →
          later.arrive.loading = later.loading ++ [slot + 1]) ∧
      ∀ caller ∈ later.callers, caller.slot = slot → caller.routes = none := by
  intro past later hbegun hkept hloading
  have hpast : past.Sound := sound_run (sound_opened now ttl store) before
  have hlater : later.Sound := sound_run (sound_arrive hpast) middle
  have horderly : later.Orderly := orderly_run (orderly_arrive
    (orderly_run (orderly_opened now ttl store) before)) middle
  have httl : later.cache.ttl = ttl :=
    (precedes_run (sound_arrive hpast) middle).ttl.trans
      ((precedes_arrive past).ttl.trans
        (precedes_run (sound_opened now ttl store) before).ttl)
  obtain ⟨hinstalled, hbegins⟩ := installed_of_begun hpast hbegun
  obtain ⟨load, hheld⟩ :=
    (precedes_run (sound_arrive hpast) middle).installed hbegins
  refine ⟨?_, ?_, ?_⟩
  · intro hyoung
    have hstays :=
      staysUnless_run (sound_arrive hpast) hbegins hinstalled hkept
    rcases hstays with hstill | hidle | hold
    · exact arrive_of_young hlater hstill hheld (by rwa [httl])
    · exact absurd hloading hidle
    · rw [show (past.arrive.run middle).cache.ttl = ttl from httl] at hold
      exact absurd hyoung (Nat.not_lt.mpr hold)
  · intro hold hnewest
    exact loading_arrive_of_old horderly hheld hnewest (by rwa [httl])
  · rintro caller hcaller rfl
    exact routes_eq_none_of_loading hlater hcaller hloading

theorem second_caller_joins_within_lifetime :
    let past := opened .start (.ofSeconds 3) {}
    let later := past.arrive.run [.wait (.ofSeconds 2)]
    past.begun .arrive = [0] ∧
      .invalidate ∉ [Event.wait (.ofSeconds 2)] ∧ 0 ∈ later.loading ∧
      later.arrive =
        { later with callers := later.callers ++ [⟨0, none⟩] } := by
  intro past later
  have hbegun : past.begun .arrive = [0] := rfl
  have hkept : .invalidate ∉ [Event.wait (.ofSeconds 2)] := by simp
  have hloading : 0 ∈ later.loading := by decide
  exact ⟨hbegun, hkept, hloading, (loads_overlap_only_after_lifetime .start
    (.ofSeconds 3) {} [] [.wait (.ofSeconds 2)] 0 hbegun hkept hloading).1
      (by decide)⟩

/-- Nothing has been invalidated, and still two loads run side by side. -/
theorem slow_load_is_overtaken :
    let final := (opened .start (.ofSeconds 1) {}).run
      [.arrive, .wait (.ofSeconds 2), .arrive]
    final.loading = [0, 1] ∧ final.store.routeLoads = 2 :=
  ⟨rfl, rfl⟩

end Calls

end EdgeGateway.Route
