import EdgeGateway.Proofs.Chronicle
import EdgeGateway.Proofs.Route.Freshness
import EdgeGateway.Route.Signals

/-!
# No refresh is lost

A signal that is accepted waits in the channel, or others wait there already.  So
the listener has something left to do, and it has until it invalidates: signals
that it drops, and signals that found the channel full, are covered by that one
invalidation.  Calls that begin later get routes that were read later.  The
listener invalidates for a signal that it has taken, and for each at most once.
-/

namespace EdgeGateway.Route

/-! ## The listener -/

namespace Refresh

/-- The listener is idle and no signal waits. -/
def Rests (refresh : Refresh) : Prop :=
  refresh.listener = .idle ∧ refresh.channel.waiting = []

/-- The steps until the listener rests, if no signal comes. -/
def remaining (refresh : Refresh) : Nat :=
  let waiting := refresh.channel.waiting.length
  let untilIdle := if waiting = 0 then 0 else waiting + 2
  match refresh.listener with
  | .idle => untilIdle
  | .draining _ _ => waiting + 2
  | .invalidating _ _ => untilIdle + 1

theorem step?_eq_none_iff {refresh : Refresh} :
    refresh.step? = none ↔ refresh.Rests := by
  obtain ⟨⟨waiting, closed⟩, listener, cache⟩ := refresh
  cases listener <;> cases waiting <;> simp [step?, Rests]

theorem remaining_step {refresh next : Refresh} {counted : List Observe.Counter}
    (hstep : refresh.step? = some (next, counted)) :
    next.remaining + 1 = refresh.remaining := by
  obtain ⟨⟨waiting, closed⟩, listener, cache⟩ := refresh
  cases listener <;> cases waiting <;>
    simp only [step?, reduceCtorEq, Option.some.injEq, Prod.mk.injEq] at hstep <;>
    obtain ⟨rfl, -⟩ := hstep <;> simp [remaining]

end Refresh

namespace Signals

/-- All that one step of the listener can be. -/
inductive Listens (signals next : Signals) : Prop where
  | rests (closed : Bool)
      (hrests : signals.refresh.Rests)
      (hnext : next = { signals with channel.closed := closed })
  | takes (sender : String) (waiting : List String)
      (hlistener : signals.listener = .idle)
      (hwaiting : signals.channel.waiting = sender :: waiting)
      (hnext : next = { signals with
        channel.waiting := waiting, listener := .draining sender 0 })
  | drops (sender dropped : String) (count : Nat) (waiting : List String)
      (hlistener : signals.listener = .draining sender count)
      (hwaiting : signals.channel.waiting = dropped :: waiting)
      (hnext : next = { signals with
        channel.waiting := waiting, listener := .draining sender (count + 1) })
  | finds (sender : String) (count : Nat)
      (hlistener : signals.listener = .draining sender count)
      (hwaiting : signals.channel.waiting = [])
      (hnext : next = { signals with listener := .invalidating sender count })
  | invalidates (sender : String) (count : Nat)
      (hlistener : signals.listener = .invalidating sender count)
      (hnext : next = { signals with
        calls := signals.calls.invalidate, listener := .idle })

theorem listens (signals : Signals) : Listens signals signals.listen := by
  obtain ⟨calls, ⟨waiting, closed⟩, listener, senders⟩ := signals
  cases listener with
  | idle =>
      cases waiting with
      | nil =>
          by_cases hsenders : senders = 0
          · exact .rests true ⟨rfl, rfl⟩
              (by simp [listen, refresh, Refresh.step?, hsenders])
          · exact .rests closed ⟨rfl, rfl⟩
              (by simp [listen, refresh, Refresh.step?, hsenders])
      | cons sender waiting =>
          exact .takes sender waiting rfl rfl
            (by simp [listen, refresh, Refresh.step?])
  | draining sender count =>
      cases waiting with
      | nil =>
          exact .finds sender count rfl rfl
            (by simp [listen, refresh, Refresh.step?])
      | cons dropped waiting =>
          exact .drops sender dropped count waiting rfl rfl
            (by simp [listen, refresh, Refresh.step?])
  | invalidating sender count => exact .invalidates sender count rfl rfl

/-! ## The route source -/

def opened (now : Instant) (ttl : Duration) (store : Store.Memory) : Signals where
  calls := .opened now ttl store

/-- What the route source is asked for. -/
def asked (signals : Signals) : Event → List Route.Event
  | .call event => [event]
  | .listen =>
      match signals.listener with
      | .invalidating _ _ => [.invalidate]
      | _ => []
  | _ => []

theorem calls_notify (signals : Signals) (sender : String) :
    (signals.notify sender).2.calls = signals.calls := by
  unfold notify
  split <;> rfl

theorem calls_step (signals : Signals) (event : Event) :
    (signals.step event).calls = signals.calls.run (signals.asked event) := by
  cases event with
  | call event => rfl
  | notify sender => exact calls_notify signals sender
  | listen =>
      rw [step]
      cases listens signals with
      | rests _ hrests hnext =>
          have hlistener : signals.listener = .idle := hrests.1
          simp [hnext, asked, hlistener, Calls.run]
      | takes _ _ hlistener _ hnext => simp [hnext, asked, hlistener, Calls.run]
      | drops _ _ _ _ hlistener _ hnext => simp [hnext, asked, hlistener, Calls.run]
      | finds _ _ hlistener _ hnext => simp [hnext, asked, hlistener, Calls.run]
      | invalidates _ _ hlistener hnext =>
          simp [hnext, asked, hlistener, Calls.run, Calls.step]
  | share =>
      by_cases hsenders : signals.senders = 0 <;>
        simp [step, hsenders, asked, Calls.run]
  | drop => rfl

theorem calls_run (signals : Signals) (events : List Event) :
    (signals.run events).calls =
      signals.calls.run (chronicle step asked signals events) := by
  induction events generalizing signals with
  | nil => rfl
  | cons event events ih =>
      rw [run, List.foldl_cons, ← run, ih, calls_step, chronicle, Calls.run_append]

theorem sound_run {signals : Signals} (hsound : signals.calls.Sound)
    (events : List Event) : (signals.run events).calls.Sound := by
  rw [calls_run]
  exact Calls.sound_run hsound _

theorem length_callers_run_le {signals : Signals} (hsound : signals.calls.Sound)
    (events : List Event) :
    signals.calls.callers.length ≤ (signals.run events).calls.callers.length := by
  rw [calls_run]
  exact (Calls.precedes_run hsound _).callers.length_le

theorem run_append (signals : Signals) (events others : List Event) :
    signals.run (events ++ others) = (signals.run events).run others :=
  List.foldl_append

/-- A run has ended the load of a slot with these routes, read in this state. -/
def ReadIn (start : Signals) (events : List Event) (slot : Nat)
    (routes : List Resolved) (state : Signals) : Prop :=
  ∃ earlier later, events = earlier ++ .call (.finish slot) :: later ∧
    state = start.run earlier ∧ slot ∈ state.calls.loading ∧
      ∃ rows, state.calls.store.readRoutes = .ok rows ∧
        routes = (resolveRows rows).1

theorem ReadIn.of_suffix {start : Signals} {before events : List Event} {slot : Nat}
    {routes : List Resolved} {state : Signals}
    (hread : ReadIn (start.run before) events slot routes state) :
    ReadIn start (before ++ events) slot routes state := by
  obtain ⟨earlier, later, rfl, rfl, hstate⟩ := hread
  refine ⟨before ++ earlier, later, by rw [List.append_assoc], ?_, hstate⟩
  rw [run_append]

theorem readIn_of_loadedIn {start : Signals} {events : List Event} {slot : Nat}
    {routes : List Resolved} {calls : Calls}
    (hloaded : Calls.LoadedIn start.calls (chronicle step asked start events) slot
      routes calls) : ∃ state, ReadIn start events slot routes state := by
  obtain ⟨before, after, hsplit, rfl, hloading, hrows⟩ := hloaded
  obtain ⟨earlier, event, later, rfl, first, rest, hasked, rfl⟩ :=
    split_of_chronicle_eq hsplit
  -- Only a call ends a load, and it is all that its event asks for.
  obtain ⟨rfl, rfl⟩ : event = .call (.finish slot) ∧ first = [] := by
    cases event with
    | call event =>
        cases first with
        | nil => exact ⟨congrArg Event.call (List.cons.inj hasked).1, rfl⟩
        | cons other first => simp [asked] at hasked
    | listen =>
        cases hlistener : (earlier.foldl step start).listener <;>
          cases first <;> simp [asked, hlistener] at hasked
    | _ => simp [asked] at hasked
  rw [List.append_nil, ← calls_run] at hloading hrows
  exact ⟨_, earlier, later, rfl, rfl, hloading, hrows⟩

/-! ## A signal that was accepted -/

theorem notify_cases (sender : String) (signals : Signals) :
    (signals.notify sender = (false, signals) ∧
      (signals.senders = 0 ∨ signals.channel.closed = true)) ∨
    (signals.notify sender = (true, signals) ∧ signals.senders ≠ 0 ∧
      refreshCapacity ≤ signals.channel.waiting.length) ∨
    (signals.notify sender = (true, { signals with
        channel.waiting := signals.channel.waiting ++ [sender] }) ∧
      signals.senders ≠ 0 ∧ signals.channel.closed = false ∧
      signals.channel.waiting.length < refreshCapacity) := by
  by_cases hsenders : signals.senders = 0
  · exact Or.inl ⟨by simp [notify, hsenders], Or.inl hsenders⟩
  cases hclosed : signals.channel.closed with
  | true =>
      refine Or.inl ⟨?_, Or.inr rfl⟩
      simp [notify, hsenders, RefreshChannel.notify, hclosed]
  | false =>
      by_cases hroom : signals.channel.waiting.length < refreshCapacity
      · refine Or.inr (Or.inr ⟨?_, hsenders, rfl, hroom⟩)
        simp [notify, hsenders, RefreshChannel.notify, hclosed, hroom]
      · refine Or.inr (Or.inl ⟨?_, hsenders, Nat.not_lt.mp hroom⟩)
        simp [notify, hsenders, RefreshChannel.notify, hclosed, hroom]

theorem not_rests_notify {signals : Signals} {sender : String}
    (haccepted : (signals.notify sender).1 = true) :
    ¬ (signals.notify sender).2.refresh.Rests := by
  rintro ⟨-, hempty⟩
  rcases signals.notify_cases sender with
    ⟨hnotify, -⟩ | ⟨hnotify, -, hfull⟩ | ⟨hnotify, -⟩
  · simp [hnotify] at haccepted
  · rw [hnotify] at hempty
    change signals.channel.waiting = [] at hempty
    simp [hempty, refreshCapacity] at hfull
  · simp [hnotify, refresh] at hempty

/-- The senders for whose signals the listener invalidates. -/
def invalidated (signals : Signals) : Event → List String
  | .listen =>
      match signals.listener with
      | .invalidating sender _ => [sender]
      | _ => []
  | _ => []

/-- Only an invalidation lets the listener rest. -/
theorem not_rests_step {signals : Signals} (hwork : ¬ signals.refresh.Rests)
    {event : Event} (hnone : signals.invalidated event = []) :
    ¬ (signals.step event).refresh.Rests := by
  cases event with
  | call event => exact hwork
  | notify sender =>
      rw [step]
      rcases signals.notify_cases sender with
        ⟨hnotify, -⟩ | ⟨hnotify, -⟩ | ⟨hnotify, -⟩
      · rwa [hnotify]
      · rwa [hnotify]
      · simp [hnotify, refresh, Refresh.Rests]
  | listen =>
      rw [step]
      cases listens signals with
      | rests _ hrests => exact absurd hrests hwork
      | takes _ _ _ _ hnext => simp [hnext, refresh, Refresh.Rests]
      | drops _ _ _ _ _ _ hnext => simp [hnext, refresh, Refresh.Rests]
      | finds _ _ _ _ hnext => simp [hnext, refresh, Refresh.Rests]
      | invalidates _ _ hlistener => simp [invalidated, hlistener] at hnone
  | share =>
      by_cases hsenders : signals.senders = 0
      · simpa [step, hsenders] using hwork
      · simpa [step, hsenders, refresh, Refresh.Rests] using hwork
  | drop => exact hwork

theorem invalidated_of_work {signals : Signals} {events : List Event}
    (hwork : ¬ signals.refresh.Rests) (hrests : (signals.run events).refresh.Rests) :
    ∃ earlier later sender count, events = earlier ++ .listen :: later ∧
      (signals.run earlier).listener = .invalidating sender count := by
  induction events generalizing signals with
  | nil => exact absurd hrests hwork
  | cons event events ih =>
      by_cases hnone : signals.invalidated event = []
      · obtain ⟨earlier, later, sender, count, rfl, hlistener⟩ :=
          ih (not_rests_step hwork hnone) hrests
        exact ⟨event :: earlier, later, sender, count, rfl, hlistener⟩
      · cases event with
        | listen =>
            cases hlistener : signals.listener with
            | invalidating sender count =>
                exact ⟨[], events, sender, count, rfl, hlistener⟩
            | _ => simp [invalidated, hlistener] at hnone
        | _ => simp [invalidated] at hnone

theorem calls_listen_of_invalidating {signals : Signals} {sender : String}
    {count : Nat} (hlistener : signals.listener = .invalidating sender count) :
    signals.listen.calls = signals.calls.invalidate := by
  have hstep := calls_step signals .listen
  simpa [step, asked, hlistener, Calls.run, Calls.step] using hstep

/-- Who calls after an invalidation gets routes that were read after it. -/
theorem readIn_of_later {signals : Signals} (hsound : signals.calls.Sound)
    {sender : String} {count : Nat}
    (hlistener : signals.listener = .invalidating sender count)
    (events : List Event) {position slot : Nat} {routes : List Resolved}
    (hlater : signals.calls.callers.length ≤ position)
    (hcaller : (signals.listen.run events).calls.callers[position]? =
      some ⟨slot, some routes⟩)
    (hsucceeded : (signals.listen.run events).calls.Succeeded slot) :
    ∃ state, ReadIn signals.listen events slot routes state := by
  have hinvalidate := calls_listen_of_invalidating hlistener
  have hpast : signals.listen.calls.Sound := sound_run hsound [.listen]
  have hnone : signals.listen.calls.cache.installed = none := by
    rw [hinvalidate]
    rfl
  have hold : signals.listen.calls.callers.length ≤ position := by
    rw [hinvalidate]
    exact hlater
  rw [calls_run] at hcaller hsucceeded
  obtain ⟨calls, hloaded⟩ :=
    Calls.loadedIn_of_later hpast hnone _ hold hcaller hsucceeded
  exact readIn_of_loadedIn hloaded

/-! ## The number of invalidations -/

def accepted (signals : Signals) : Event → List String
  | .notify sender => if (signals.notify sender).1 then [sender] else []
  | _ => []

/-- The signals that are put into the channel. -/
def queued (signals : Signals) : Event → List String
  | .notify sender =>
      if signals.senders ≠ 0 ∧ signals.channel.closed = false ∧
          signals.channel.waiting.length < refreshCapacity
      then [sender] else []
  | _ => []

/-- The signal that the listener has taken. -/
def taken (signals : Signals) : List String :=
  match signals.listener with
  | .idle => []
  | .draining sender _ | .invalidating sender _ => [sender]

/-- The listener goes through the signals in their order, and leaves some out. -/
theorem handled_step (signals : Signals) (event : Event) :
    (signals.invalidated event ++ (signals.step event).taken ++
        (signals.step event).channel.waiting).Sublist
      (signals.taken ++ signals.channel.waiting ++ signals.queued event) := by
  cases event with
  | call event => simp [invalidated, queued, step, taken]
  | notify sender =>
      rw [step]
      rcases signals.notify_cases sender with
        ⟨hnotify, -⟩ | ⟨hnotify, -⟩ | ⟨hnotify, hsenders, hclosed, hroom⟩
      · simp [hnotify, invalidated]
      · simp [hnotify, invalidated]
      · simp [hnotify, invalidated, queued, hsenders, hclosed, hroom, taken]
  | listen =>
      rw [step]
      cases listens signals with
      | rests _ hrests hnext =>
          have hlistener : signals.listener = .idle := hrests.1
          simp [hnext, invalidated, queued, taken, hlistener]
      | takes _ _ hlistener hwaiting hnext =>
          simp [hnext, invalidated, queued, taken, hlistener, hwaiting]
      | drops _ _ _ _ hlistener hwaiting hnext =>
          simp [hnext, invalidated, queued, taken, hlistener, hwaiting]
      | finds _ _ hlistener hwaiting hnext =>
          simp [hnext, invalidated, queued, taken, hlistener, hwaiting]
      | invalidates _ _ hlistener hnext =>
          simp [hnext, invalidated, queued, taken, hlistener]
  | share =>
      by_cases hsenders : signals.senders = 0 <;>
        simp [step, hsenders, invalidated, queued, taken]
  | drop => simp [invalidated, queued, step, taken]

theorem handled_run (signals : Signals) (events : List Event) :
    (chronicle step invalidated signals events ++ (signals.run events).taken ++
        (signals.run events).channel.waiting).Sublist
      (signals.taken ++ signals.channel.waiting ++
        chronicle step queued signals events) := by
  induction events generalizing signals with
  | nil => simp [chronicle, run]
  | cons event events ih =>
      have hlater := (List.Sublist.refl (signals.invalidated event)).append
        (ih (signals.step event))
      have hfirst := (handled_step signals event).append_right
        (chronicle step queued (signals.step event) events)
      simp only [chronicle, run, List.foldl_cons, List.append_assoc] at *
      exact hlater.trans hfirst

theorem queued_sublist_accepted (signals : Signals) (event : Event) :
    (signals.queued event).Sublist (signals.accepted event) := by
  cases event with
  | notify sender =>
      rcases signals.notify_cases sender with
        ⟨hnotify, hrefused⟩ | ⟨hnotify, -, hfull⟩ | ⟨hnotify, -⟩
      · have : signals.queued (.notify sender) = [] := by
          rw [queued, if_neg]
          rintro ⟨hsenders, hopen, -⟩
          rcases hrefused with hnone | hclosed
          · exact hsenders hnone
          · simp [hopen] at hclosed
        simp [this]
      · simp [queued, Nat.not_lt.mpr hfull]
      · simp only [queued, accepted, hnotify, if_true]
        split <;> simp
  | _ => simp [queued, accepted]

theorem remaining_listen (signals : Signals) :
    signals.listen.refresh.remaining = signals.refresh.remaining - 1 := by
  cases hstep : signals.refresh.step? with
  | none =>
      obtain ⟨hlistener, hwaiting⟩ := Refresh.step?_eq_none_iff.mp hstep
      simp only [listen, hstep]
      split <;> simp_all [refresh, Refresh.remaining]
  | some stepped =>
      have hless := Refresh.remaining_step hstep
      have hnext : signals.listen.refresh = stepped.1 := by
        unfold listen
        rw [hstep]
        rfl
      rw [hnext]
      omega

/-- The listener rests if it is left alone for long enough. -/
theorem rests_run_listen (signals : Signals) :
    (signals.run (List.replicate signals.refresh.remaining .listen)).refresh.Rests := by
  generalize hcount : signals.refresh.remaining = count
  induction count generalizing signals with
  | zero =>
      refine Refresh.step?_eq_none_iff.mp ?_
      cases hstep : signals.refresh.step? with
      | none => exact hstep
      | some stepped =>
          have hless := Refresh.remaining_step hstep
          omega
  | succ count ih =>
      rw [List.replicate_succ, run, List.foldl_cons]
      exact ih signals.listen (by rw [remaining_listen, hcount, Nat.add_sub_cancel])

/-! ## Every refresh -/

/-- A signal that is accepted is followed by an invalidation before the listener
rests again, and who calls after that gets routes that were read after the
signal.  The listener invalidates for no more signals than were put into the
channel, and it comes to rest if it runs. -/
theorem no_refresh_is_lost (now : Instant) (ttl : Duration) (store : Store.Memory) :
    let start := opened now ttl store
    (∀ (before : List Event) (sender : String) (after beyond : List Event),
      let told := (start.run before).notify sender
      told.1 = true →
      let final := told.2.run after
      final.refresh.Rests →
      (∃ earlier later taken dropped, after = earlier ++ .listen :: later ∧
        (told.2.run earlier).listener = .invalidating taken dropped ∧
        (told.2.run earlier).listen.calls = (told.2.run earlier).calls.invalidate) ∧
      ∀ position slot routes, final.calls.callers.length ≤ position →
        let last := final.run beyond
        last.calls.callers[position]? = some ⟨slot, some routes⟩ →
        last.calls.Succeeded slot →
          ∃ state, ReadIn told.2 (after ++ beyond) slot routes state) ∧
    ∀ events : List Event,
      (chronicle step invalidated start events).length ≤
        (chronicle step queued start events).length ∧
      (chronicle step queued start events).length ≤
        (chronicle step accepted start events).length ∧
      let reached := start.run events
      (reached.run (List.replicate reached.refresh.remaining .listen)).refresh.Rests := by
  intro start
  constructor
  · intro before sender after beyond told haccepted final hrests
    obtain ⟨earlier, later, taken, dropped, rfl, hlistener⟩ :=
      invalidated_of_work (not_rests_notify haccepted) hrests
    refine ⟨⟨earlier, later, taken, dropped, rfl, hlistener,
      calls_listen_of_invalidating hlistener⟩, ?_⟩
    intro position slot routes hposition last hcaller hsucceeded
    have htold : told.2.calls.Sound := by
      rw [calls_notify]
      exact sound_run (Calls.sound_opened now ttl store) before
    have hmoment : (told.2.run earlier).calls.Sound := sound_run htold earlier
    have hfinal : final = (told.2.run earlier).run (.listen :: later) :=
      run_append told.2 earlier (.listen :: later)
    have hlast : last = (told.2.run earlier).listen.run (later ++ beyond) := by
      change final.run beyond = _
      rw [hfinal, run_append]
      rfl
    have hlater : (told.2.run earlier).calls.callers.length ≤ position := by
      rw [hfinal] at hposition
      exact Nat.le_trans (length_callers_run_le hmoment _) hposition
    rw [hlast] at hcaller hsucceeded
    obtain ⟨state, hread⟩ :=
      readIn_of_later hmoment hlistener _ hlater hcaller hsucceeded
    have hevents : earlier ++ .listen :: later ++ beyond =
        (earlier ++ [.listen]) ++ (later ++ beyond) := by simp
    rw [hevents]
    refine ⟨state, ReadIn.of_suffix ?_⟩
    rwa [run_append]
  · intro events
    have hhandled := handled_run start events
    refine ⟨?_, ?_, rests_run_listen _⟩
    · have hlength := hhandled.length_le
      simp only [List.length_append] at hlength
      change _ ≤ 0 + 0 + (chronicle step queued start events).length at hlength
      omega
    · exact (chronicle_sublist queued_sublist_accepted start events).length_le

/-- A caller gets no routes, and a row is added. -/
def addition : List Event :=
  [.call .arrive, .call (.finish 0), .call (.collect 0),
    .call (.replaceRows [Calls.ordersRow])]

/-- A second signal, after which nobody is left to send one. -/
def lastSignal : List Event :=
  [.notify "redis", .drop, .listen, .listen, .listen, .listen]

def nextCall : List Event :=
  [.call .arrive, .call (.finish 1), .call (.collect 1)]

theorem addition_seen_after_signals :
    let told := ((opened .start (.ofMinutes 5) {}).run addition).notify "admin"
    let final := told.2.run lastSignal
    told.1 = true ∧ final.senders = 0 ∧ final.refresh.Rests ∧
      (final.run nextCall).calls.callers =
        [⟨0, some []⟩, ⟨1, some (resolveRows [Calls.ordersRow]).1⟩] ∧
      ∃ state, ReadIn told.2 (lastSignal ++ nextCall) 1
        (resolveRows [Calls.ordersRow]).1 state := by
  intro told final
  obtain ⟨-, hread⟩ := (no_refresh_is_lost .start (.ofMinutes 5) {}).1
    addition "admin" lastSignal nextCall rfl ⟨rfl, rfl⟩
  exact ⟨rfl, rfl, ⟨rfl, rfl⟩, rfl, hread 1 1 _ (Nat.le_refl _) rfl ⟨.start, _, rfl⟩⟩

end Signals

end EdgeGateway.Route
