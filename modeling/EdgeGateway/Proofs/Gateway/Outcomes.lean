import EdgeGateway.Proofs.Chronicle
import EdgeGateway.Proofs.Failover.Streak
import EdgeGateway.Proofs.Gateway.Counting
import EdgeGateway.Proofs.Gateway.Writers

/-!
# One outcome for each call

Requests come in, wait and are answered or given up, in any order, and operators
move the region in between.  A call is known by the place of its request, and it
has begun once that request waits.  Its outcome is what the reply of the backend
says, or a failure of the connection if the client leaves first.

`Books` relates two states of the traffic and what has happened between them: the
calls that have begun, those that have ended, and what the region was told.  They
are kept by every event and can be put together, so they are kept by every run.
-/

namespace EdgeGateway.Gateway

open Failover (Operation Outcome)
open Observe (Counter backendOutcomes)

/-! ## Commands -/

/-- The command that an endpoint takes from a request. -/
def Endpoint.command? (inbound : Inbound) : Endpoint → Option Failover.Command
  | failover =>
      if failover.allows inbound.method then
        (readCommand inbound.headers inbound.body).toOption
      else none
  | _ => none

/-- The command that a request gives, if it gives one that can be read. -/
def Service.command? (service : Service) (inbound : Inbound) :
    Option Failover.Command :=
  (Endpoint.ofPath? service.adminEnabled inbound.request.path).bind
    (Endpoint.command? inbound)

/-- What the region is told by a request as it comes in. -/
def Service.commands (service : Service) (inbound : Inbound) : List Operation :=
  (service.command? inbound).toList.map fun command => .operate command.region

namespace Begun

def state : Begun → ServiceState
  | answered served => served.state
  | waiting _ state _ => state

def counted : Begun → List Counter
  | answered served => served.counted
  | waiting _ _ counted => counted

def pending? : Begun → Option Pending
  | answered _ => none
  | waiting pending _ _ => some pending

end Begun

/-- The state of the region after it was told something at one time. -/
def tell (plan : Plan) (state : State) (operations : List Operation) :
    Failover.State :=
  (Failover.run plan.failover state.failover
    (operations.map fun operation => (state.now, operation))).1

theorem tell_operate (plan : Plan) (argument : Option String) (state : State) :
    tell plan state [.operate argument] =
      match Failover.operate plan.failover argument state.failover with
      | .ok step => step.state
      | .error _ => state.failover := by
  cases hoperate : Failover.operate plan.failover argument state.failover <;>
    simp [tell, Failover.run, Operation.apply, hoperate, Failover.Step.applied]

/-! ## Requests that come in -/

theorem failover_handle {plan : Plan} {freshId : String} {rollBelow : Nat → Nat}
    {request : Http.Request} {state : State} {handled : Handled}
    (hhandle : handle plan freshId rollBelow request state = .ok handled) :
    handled.state.failover = state.failover := by
  cases handling hhandle with
  | preflight _ _ _ _ _ _ _ hstate => rw [hstate]; rfl
  | routed _ _ _ _ _ _ hstate => rw [hstate]; rfl

namespace Service

variable (service : Service) (surroundings : Surroundings) (inbound : Inbound)
variable (state : ServiceState)

theorem serveFailover_spec :
    (service.serveFailover inbound state).state.gateway.failover =
        tell service.plan state.gateway
          ((readCommand inbound.headers inbound.body).toOption.toList.map
            fun command => .operate command.region) ∧
      backendOutcomes (service.serveFailover inbound state).counted = [] := by
  rw [serveFailover]
  cases readCommand inbound.headers inbound.body with
  | error response => exact ⟨rfl, rfl⟩
  | ok command =>
      simp only [Except.toOption, Option.toList_some, List.map_cons, List.map_nil,
        tell_operate]
      cases hoperate : Failover.operate service.plan.failover command.region
          state.gateway.failover with
      | error error => exact ⟨rfl, rfl⟩
      | ok step => exact ⟨rfl, Failover.backendOutcomes_operate hoperate⟩

/-- Of the endpoints only one tells the region something, and none counts a call. -/
theorem serveEndpoint_spec (endpoint : Endpoint) :
    let served := service.serveEndpoint surroundings inbound endpoint state
    served.state.gateway.failover =
        tell service.plan state.gateway
          ((endpoint.command? inbound).toList.map fun command =>
            .operate command.region) ∧
      backendOutcomes served.counted = [] := by
  intro served
  by_cases hallows : endpoint.allows inbound.method = true
  · simp only [served, serveEndpoint, if_pos hallows]
    cases endpoint with
    | failover =>
        rw [Endpoint.command?, if_pos hallows]
        exact service.serveFailover_spec inbound state
    | routes =>
        exact ⟨rfl, Route.Cache.backendOutcomes_list state.gateway.now
          state.gateway.store state.gateway.cache⟩
    | _ => exact ⟨rfl, rfl⟩
  · have hsilent : endpoint.command? inbound = none := by
      cases endpoint <;> first | rfl | rw [Endpoint.command?, if_neg hallows]
    simp only [served, serveEndpoint, if_neg hallows, hsilent]
    exact ⟨rfl, rfl⟩

/-- A request tells the region what it commands, and no call is counted before its
outcome is known. -/
theorem begin_spec {begun : Begun}
    (hbegin : service.begin surroundings inbound state = .ok begun) :
    begun.state.gateway.failover =
        tell service.plan state.gateway (service.commands inbound) ∧
      backendOutcomes begun.counted = [] := by
  rw [Service.begin] at hbegin
  cases hendpoint :
      Endpoint.ofPath? service.adminEnabled inbound.request.path with
  | some endpoint =>
      rw [hendpoint] at hbegin
      obtain rfl := Except.ok.inj hbegin
      rw [commands, command?, hendpoint]
      exact service.serveEndpoint_spec surroundings inbound state endpoint
  | none =>
      rw [hendpoint] at hbegin
      have hsilent : service.commands inbound = [] := by
        rw [commands, command?, hendpoint]
        rfl
      obtain ⟨handled, hhandle, hcases⟩ := beginRouted_cases hbegin
      have hkept := failover_handle hhandle
      have hquiet := backendOutcomes_handle hhandle
      rw [hsilent]
      cases hcases with
      | inl hanswered =>
          obtain ⟨response, rfl⟩ := hanswered
          exact ⟨hkept, hquiet⟩
      | inr hwaits =>
          obtain ⟨outbound, body, -, rfl⟩ := hwaits
          exact ⟨hkept, hquiet⟩

/-- A request is forwarded if it belongs to the routes, goes along one of them, and
has a body that can be sent. -/
def Forwards : Prop :=
  Endpoint.ofPath? service.adminEnabled inbound.request.path = none ∧
    bodyFault? inbound.body = none ∧
    ∃ handled outbound, handle service.plan surroundings.freshId
      surroundings.rollBelow inbound.request state.gateway = .ok handled ∧
        handled.decision = .forward outbound

/-- Just the requests that are forwarded wait for a call. -/
theorem begins_iff :
    ((service.begin surroundings inbound state).toOption.bind
      Begun.pending?).isSome = true ↔
        service.Forwards surroundings inbound state := by
  rw [Service.begin, Forwards]
  cases hendpoint :
      Endpoint.ofPath? service.adminEnabled inbound.request.path with
  | some endpoint => simp [Except.toOption, Begun.pending?]
  | none =>
      simp only [true_and]
      rw [beginRouted]
      cases hhandle : handle service.plan surroundings.freshId surroundings.rollBelow
          inbound.request state.gateway with
      | error fault => simp [bind, Except.bind, Except.toOption]
      | ok handled =>
          simp only [bind, Except.bind, Except.ok.injEq]
          cases hdecision : handled.decision with
          | respond preflight =>
              simp [pure, Except.pure, Except.toOption, Begun.pending?, hdecision]
          | reject error =>
              simp [pure, Except.pure, Except.toOption, Begun.pending?, hdecision]
          | forward outbound =>
              cases hbody : inbound.body with
              | error reason =>
                  simp [bodyFault?, pure, Except.pure, Except.toOption, Begun.pending?]
              | ok body =>
                  cases hfault : bodyFault? (.ok body) <;>
                    simp [pure, Except.pure, Except.toOption, Begun.pending?, hdecision]

/-- A request that is lost was none for an endpoint. -/
theorem commands_of_begin_eq_error {fault : ClockFault}
    (hbegin : service.begin surroundings inbound state = .error fault) :
    service.commands inbound = [] := by
  rw [Service.begin] at hbegin
  cases hendpoint :
      Endpoint.ofPath? service.adminEnabled inbound.request.path with
  | some endpoint => simp [hendpoint] at hbegin
  | none =>
      rw [commands, command?, hendpoint]
      rfl

end Service

/-! ## Calls that wait -/

/-- A call that has ended. -/
structure Ended where
  place : Nat
  outcome : Outcome
  deriving Repr, DecidableEq

namespace Traffic

/-- The places of the requests that wait. -/
def waitingPlaces (traffic : Traffic) : List Nat :=
  (List.range traffic.waiting.length).filter fun place =>
    (traffic.pending? place).isSome

/-- The call that an event ends, if it waits. -/
def Event.ending? : Event → Option Ended
  | reply place answer => some ⟨place, answer.outcome⟩
  | leave place => some ⟨place, .transportError "client disconnected"⟩
  | _ => none

/-- The calls that an event ends: one or none. -/
def ended (traffic : Traffic) (event : Event) : List Ended :=
  event.ending?.toList.filter fun ended => (traffic.pending? ended.place).isSome

/-- The call that an event settles, if it waits, and how: a call is settled by the status
of the answer, by the lack of one in time, by a connection that fails or by a client that
leaves. -/
inductive Event.Settles : Event → Nat → Outcome → Prop
  | broken {place status : Nat} {headers : Http.Headers} {body : ByteArray}
      (hstatus : 500 ≤ status ∧ status ≤ 599) :
      Settles (reply place (.answered status headers body)) place (.backendError status)
  | sound {place status : Nat} {headers : Http.Headers} {body : ByteArray}
      (hstatus : status < 500 ∨ 599 < status) :
      Settles (reply place (.answered status headers body)) place (.success status)
  | late {place : Nat} : Settles (reply place .timedOut) place .timedOut
  | failed {place : Nat} {reason : String} :
      Settles (reply place (.failed reason)) place (.transportError reason)
  | left {place : Nat} :
      Settles (leave place) place (.transportError "client disconnected")

theorem ending?_eq_some_iff {event : Event} {place : Nat} {outcome : Outcome} :
    event.ending? = some ⟨place, outcome⟩ ↔ event.Settles place outcome := by
  constructor
  · intro hending
    cases event with
    | reply other answer =>
        obtain ⟨rfl, rfl⟩ := Ended.mk.inj (Option.some.inj hending)
        cases answer with
        | answered status headers body =>
            rw [Reply.outcome, Outcome.ofStatus]
            split
            next hstatus => exact .broken (by omega)
            next hstatus => exact .sound (by omega)
        | timedOut => exact .late
        | failed reason => exact .failed
    | leave other =>
        obtain ⟨rfl, rfl⟩ := Ended.mk.inj (Option.some.inj hending)
        exact .left
    | _ => cases hending
  · intro hsettles
    cases hsettles with
    | broken hstatus =>
        simp only [Event.ending?, Reply.outcome, Outcome.ofStatus]
        rw [if_pos (by omega)]
    | sound hstatus =>
        simp only [Event.ending?, Reply.outcome, Outcome.ofStatus]
        rw [if_neg (by omega)]
    | late => rfl
    | failed => rfl
    | left => rfl

/-- Just the call that an event settles ends by it, if it waits. -/
theorem mem_ended_iff {traffic : Traffic} {event : Event} {place : Nat} {outcome : Outcome} :
    ⟨place, outcome⟩ ∈ traffic.ended event ↔
      (traffic.pending? place).isSome = true ∧ event.Settles place outcome := by
  rw [ended, List.mem_filter, Option.mem_toList, ← ending?_eq_some_iff, and_comm]

/-- The calls that an event begins, by the places of their requests. -/
def begun (traffic : Traffic) : Event → List Nat
  | .arrive surroundings inbound =>
      let begun := traffic.service.begin surroundings inbound traffic.state
      (begun.toOption.bind Begun.pending?).toList.map fun _ => traffic.waiting.length
  | _ => []

/-- What an operator commands by an event. -/
def commands (traffic : Traffic) : Event → List Operation
  | .arrive _ inbound => traffic.service.commands inbound
  | _ => []

/-- What an event tells the region: the outcome of a call that it ends, or what an
operator commands. -/
def told (traffic : Traffic) (event : Event) : List (Instant × Operation) :=
  ((traffic.ended event).map (fun ended => Operation.observe ended.outcome) ++
    traffic.commands event).map fun operation =>
      (traffic.state.gateway.now, operation)

/-- The traffic after an event.  A request whose handling fails is lost. -/
def after (traffic : Traffic) (event : Event) : Traffic :=
  match traffic.step event with
  | .ok (next, _) => next
  | .error _ => traffic

/-! ## What one event does -/

/-- A request takes the next place. -/
def joined (traffic : Traffic) (begun : Begun) : Traffic :=
  { traffic with
    state := begun.state
    waiting := traffic.waiting ++ [begun.pending?]
    counted := traffic.counted ++ begun.counted }

/-- A call ends, and its outcome is taken in. -/
def closed (traffic : Traffic) (ended : Ended) : Traffic :=
  let (gateway, counted) :=
    report traffic.service.plan ended.outcome traffic.state.gateway
  { traffic with
    state := { traffic.state with gateway := gateway }
    waiting := traffic.waiting.set ended.place none
    counted := traffic.counted ++ counted }

theorem after_arrive (traffic : Traffic) (surroundings : Surroundings)
    (inbound : Inbound) :
    traffic.after (.arrive surroundings inbound) =
      match traffic.service.begin surroundings inbound traffic.state with
      | .ok begun => traffic.joined begun
      | .error _ => traffic := by
  rw [after, step, arrive]
  cases traffic.service.begin surroundings inbound traffic.state with
  | error fault => rfl
  | ok begun => cases begun <;> rfl

theorem after_ending (traffic : Traffic) {event : Event} {ended : Ended}
    (hending : event.ending? = some ended) :
    traffic.after event =
      if (traffic.pending? ended.place).isSome then traffic.closed ended
      else traffic := by
  cases event with
  | reply place reply =>
      obtain rfl := Option.some.inj hending
      rw [after, step, Traffic.reply]
      cases traffic.pending? place <;> rfl
  | leave place =>
      obtain rfl := Option.some.inj hending
      rw [after, step, Traffic.leave]
      cases traffic.pending? place <;> rfl
  | _ => simp [Event.ending?] at hending

theorem waitingPlaces_joined (traffic : Traffic) (begun : Begun) :
    (traffic.joined begun).waitingPlaces =
      traffic.waitingPlaces ++
        begun.pending?.toList.map fun _ => traffic.waiting.length := by
  have hlast : (traffic.joined begun).pending? traffic.waiting.length =
      begun.pending? := by
    simp [pending?, joined]
  have hothers : ∀ place ∈ List.range traffic.waiting.length,
      ((traffic.joined begun).pending? place).isSome =
        (traffic.pending? place).isSome := by
    intro place hplace
    rw [pending?, joined, List.getElem?_append_left (List.mem_range.mp hplace)]
    rfl
  have hlength : (traffic.joined begun).waiting.length =
      traffic.waiting.length + 1 := by
    simp [joined]
  rw [waitingPlaces, hlength, List.range_succ, List.filter_append,
    List.filter_congr hothers, List.filter_singleton, hlast, waitingPlaces]
  cases begun.pending? <;> rfl

theorem nodup_waitingPlaces (traffic : Traffic) : traffic.waitingPlaces.Nodup :=
  List.nodup_range.filter _

theorem waitingPlaces_closed (traffic : Traffic) (ended : Ended) :
    (traffic.closed ended).waitingPlaces =
      traffic.waitingPlaces.erase ended.place := by
  have hlength : (traffic.closed ended).waiting.length =
      traffic.waiting.length := List.length_set
  rw [(nodup_waitingPlaces traffic).erase_eq_filter, waitingPlaces, waitingPlaces,
    hlength, List.filter_filter]
  apply List.filter_congr
  intro place hplace
  by_cases hsame : place = ended.place
  · have hinside : ended.place < traffic.waiting.length := by
      simpa [hsame] using hplace
    simp [pending?, closed, hsame, List.getElem?_set_self hinside]
  · simp [pending?, closed, hsame, List.getElem?_set_ne (Ne.symm hsame)]

theorem lt_of_mem_waitingPlaces {traffic : Traffic} {place : Nat}
    (hwaits : place ∈ traffic.waitingPlaces) : place < traffic.waiting.length :=
  List.mem_range.mp (List.mem_filter.mp hwaits).1

theorem mem_waitingPlaces {traffic : Traffic} {place : Nat}
    (hpending : (traffic.pending? place).isSome = true) :
    place ∈ traffic.waitingPlaces := by
  refine List.mem_filter.mpr ⟨List.mem_range.mpr ?_, hpending⟩
  by_contra houtside
  simp [pending?, List.getElem?_eq_none (Nat.not_lt.mp houtside)] at hpending

/-! ## The books -/

/-- What has happened between two states of the traffic. -/
structure Books (start final : Traffic) (told : List (Instant × Operation))
    (ended : List Ended) (begun : List Nat) : Prop where
  service : final.service = start.service
  /-- The region knows what it was told and nothing else. -/
  failover : final.state.gateway.failover =
    (Failover.run start.service.plan.failover start.state.gateway.failover told).1
  /-- A call is counted when it ends. -/
  counted : backendOutcomes final.counted =
    backendOutcomes start.counted ++ ended.map fun ended => ended.outcome.label
  /-- Whoever waits has waited before or has begun to, and has not ended. -/
  places : (ended.map Ended.place ++ final.waitingPlaces).Perm
    (start.waitingPlaces ++ begun)
  fresh : ∀ place ∈ begun,
    start.waiting.length ≤ place ∧ place < final.waiting.length
  ascending : begun.Pairwise (· < ·)
  grows : start.waiting.length ≤ final.waiting.length

namespace Books

theorem quiet {start final : Traffic} (hservice : final.service = start.service)
    (hfailover : final.state.gateway.failover = start.state.gateway.failover)
    (hcounted : backendOutcomes final.counted = backendOutcomes start.counted)
    (hwaiting : final.waiting = start.waiting) : Books start final [] [] [] where
  service := hservice
  failover := hfailover
  counted := by simpa using hcounted
  places := by simp [waitingPlaces, pending?, hwaiting]
  fresh := by simp
  ascending := List.Pairwise.nil
  grows := by rw [hwaiting]

theorem refl (traffic : Traffic) : Books traffic traffic [] [] [] :=
  quiet rfl rfl rfl rfl

variable {start middle final : Traffic} {told more : List (Instant × Operation)}
variable {ended others : List Ended} {begun later : List Nat}

theorem trans (hfirst : Books start middle told ended begun)
    (hsecond : Books middle final more others later) :
    Books start final (told ++ more) (ended ++ others) (begun ++ later) where
  service := hsecond.service.trans hfirst.service
  failover := by
    rw [Failover.run_append, ← hfirst.failover, ← hfirst.service]
    exact hsecond.failover
  counted := by
    rw [hsecond.counted, hfirst.counted, List.map_append, List.append_assoc]
  places := by
    -- Whoever waits in the middle ends later or waits at the end.
    calc
      List.Perm ((ended ++ others).map Ended.place ++ final.waitingPlaces)
          (ended.map Ended.place ++
            (others.map Ended.place ++ final.waitingPlaces)) := by
        rw [List.map_append, List.append_assoc]
      List.Perm _ (ended.map Ended.place ++ (middle.waitingPlaces ++ later)) :=
        hsecond.places.append_left _
      List.Perm _ ((ended.map Ended.place ++ middle.waitingPlaces) ++ later) := by
        rw [List.append_assoc]
      List.Perm _ ((start.waitingPlaces ++ begun) ++ later) :=
        hfirst.places.append_right later
      List.Perm _ (start.waitingPlaces ++ (begun ++ later)) := by
        rw [List.append_assoc]
  fresh := by
    intro place hplace
    rcases List.mem_append.mp hplace with hplace | hplace
    · obtain ⟨hstart, hmiddle⟩ := hfirst.fresh place hplace
      exact ⟨hstart, Nat.lt_of_lt_of_le hmiddle hsecond.grows⟩
    · obtain ⟨hmiddle, hfinal⟩ := hsecond.fresh place hplace
      exact ⟨Nat.le_trans hfirst.grows hmiddle, hfinal⟩
  ascending := by
    refine List.pairwise_append.mpr ⟨hfirst.ascending, hsecond.ascending, ?_⟩
    intro early hearly late hlate
    exact Nat.lt_of_lt_of_le (hfirst.fresh early hearly).2
      (hsecond.fresh late hlate).1
  grows := Nat.le_trans hfirst.grows hsecond.grows

/-- There is one count for each call that has begun and waits no longer. -/
theorem length_eq (hbooks : Books start final told ended begun) :
    (backendOutcomes final.counted).length + final.waitingPlaces.length =
      (backendOutcomes start.counted).length + start.waitingPlaces.length +
        begun.length := by
  have hplaces := hbooks.places.length_eq
  simp only [List.length_append, List.length_map] at hplaces
  rw [hbooks.counted, List.length_append, List.length_map, Nat.add_assoc, hplaces,
    Nat.add_assoc]

/-- No place is taken twice. -/
theorem nodup (hbooks : Books start final told ended begun) :
    (start.waitingPlaces ++ begun).Nodup := by
  have hbegun : begun.Nodup := hbooks.ascending.imp Nat.ne_of_lt
  refine List.nodup_append.mpr ⟨nodup_waitingPlaces start, hbegun, ?_⟩
  intro old hold new hnew
  have hless := lt_of_mem_waitingPlaces hold
  have hmore := (hbooks.fresh new hnew).1
  omega

end Books

theorem books_joined {traffic : Traffic} {surroundings : Surroundings}
    {inbound : Inbound} {begun : Begun}
    (hbegin : traffic.service.begin surroundings inbound traffic.state = .ok begun) :
    Books traffic (traffic.joined begun)
      (traffic.told (.arrive surroundings inbound)) []
      (begun.pending?.toList.map fun _ => traffic.waiting.length) := by
  obtain ⟨hfailover, hquiet⟩ :=
    traffic.service.begin_spec surroundings inbound traffic.state hbegin
  have hgrows : (traffic.joined begun).waiting.length =
      traffic.waiting.length + 1 := by
    simp [joined]
  constructor
  case service => rfl
  case failover => exact hfailover
  case counted => simp [joined, hquiet]
  case places =>
    rw [waitingPlaces_joined]
    exact List.Perm.refl _
  case fresh =>
    intro place hplace
    obtain ⟨pending, -, rfl⟩ := List.mem_map.mp hplace
    omega
  case ascending => cases begun.pending? <;> simp
  case grows => omega

theorem books_closed {traffic : Traffic} {ended : Ended}
    (hpending : (traffic.pending? ended.place).isSome = true) :
    Books traffic (traffic.closed ended)
      [(traffic.state.gateway.now, .observe ended.outcome)] [ended] [] := by
  constructor
  case service => rfl
  case failover => rfl
  case counted =>
    simp [closed, report, complete, Failover.backendOutcomes_observe,
      Counter.backendOutcome?]
  case places =>
    rw [waitingPlaces_closed, List.append_nil]
    exact (List.perm_cons_erase (mem_waitingPlaces hpending)).symm
  case fresh => simp
  case ascending => exact List.Pairwise.nil
  case grows => simp [closed]

theorem books_ending (traffic : Traffic) {event : Event} {ended : Ended}
    (hending : event.ending? = some ended) :
    Books traffic (traffic.after event) (traffic.told event) (traffic.ended event)
      (traffic.begun event) := by
  have hbegun : traffic.begun event = [] := by
    cases event <;> first | rfl | simp [Event.ending?] at hending
  have hsilent : traffic.commands event = [] := by
    cases event <;> first | rfl | simp [Event.ending?] at hending
  have hended : traffic.ended event =
      if (traffic.pending? ended.place).isSome then [ended] else [] := by
    simp [Traffic.ended, hending, List.filter_singleton]
  rw [told, hsilent, hbegun, hended, after_ending traffic hending]
  split
  next hpending => exact books_closed hpending
  next => exact Books.refl traffic

/-- Every event keeps the books. -/
theorem books_after (traffic : Traffic) (event : Event) :
    Books traffic (traffic.after event) (traffic.told event) (traffic.ended event)
      (traffic.begun event) := by
  cases event with
  | arrive surroundings inbound =>
      rw [after_arrive, Traffic.begun]
      cases hbegin : traffic.service.begin surroundings inbound traffic.state with
      | ok begun => exact books_joined hbegin
      | error fault =>
          -- Nothing has happened, so the request must not count as a command.
          have hsilent := traffic.service.commands_of_begin_eq_error surroundings
            inbound traffic.state hbegin
          have htold : traffic.told (.arrive surroundings inbound) = [] := by
            simp [told, Traffic.ended, Event.ending?, commands, hsilent]
          rw [htold]
          exact Books.refl traffic
  | reply place answer => exact books_ending traffic rfl
  | leave place => exact books_ending traffic rfl
  | listen =>
      refine Books.quiet rfl rfl ?_ rfl
      have hquiet := Route.Refresh.backendOutcomes_steps
        (traffic.state.channel.waiting.length + 2)
        ⟨traffic.state.channel, .idle, traffic.state.gateway.cache⟩
      simp only [after, step, listen, Observe.backendOutcomes_append]
      rw [ServiceState.listen, Route.Refresh.listen, hquiet, List.append_nil]
  | wait span => exact Books.quiet rfl rfl rfl rfl

/-- Every run keeps the books. -/
theorem books_run (traffic : Traffic) (events : List Event) :
    Books traffic (events.foldl after traffic) (chronicle after told traffic events)
      (chronicle after Traffic.ended traffic events)
      (chronicle after Traffic.begun traffic events) := by
  induction events generalizing traffic with
  | nil => exact Books.refl traffic
  | cons event events ih => exact (books_after traffic event).trans (ih _)

/-- A run in which no request is lost goes from event to event. -/
theorem final_of_run {traffic final : Traffic} {events : List Event}
    {responses : List Http.Response}
    (hrun : traffic.run events = .ok (final, responses)) :
    events.foldl after traffic = final := by
  induction events generalizing traffic responses with
  | nil =>
      obtain ⟨hfinal, -⟩ := Prod.mk.inj (Except.ok.inj hrun)
      exact hfinal
  | cons event events ih =>
      obtain ⟨⟨next, response⟩, hstep, hrest⟩ := bind_eq_ok_iff.mp hrun
      obtain ⟨⟨last, more⟩, hmore, hlast⟩ := bind_eq_ok_iff.mp hrest
      obtain ⟨rfl, -⟩ := Prod.mk.inj (pure_eq_ok_iff.mp hlast)
      have hafter : traffic.after event = next := by
        rw [after, hstep]
      rw [List.foldl_cons, hafter]
      exact ih hmore

/-- The outcome that the region is told. -/
def reported? : Instant × Operation → Option Outcome
  | (_, .observe outcome) => some outcome
  | _ => none

/-- The outcomes that the region is told are those of the calls that end. -/
theorem reported_told (traffic : Traffic) (event : Event) :
    (traffic.told event).filterMap reported? =
      (traffic.ended event).filterMap fun ended => some ended.outcome := by
  have hcommands : (traffic.commands event).filterMap
      (fun operation => reported? (traffic.state.gateway.now, operation)) = [] := by
    cases event with
    | arrive surroundings inbound =>
        simp [commands, Service.commands, List.filterMap_map, reported?]
    | _ => rfl
  simp only [told, List.filterMap_map, List.filterMap_append, Function.comp_def,
    hcommands, List.append_nil]
  rfl

theorem reported_chronicle (traffic : Traffic) (events : List Event) :
    (chronicle after told traffic events).filterMap reported? =
      (chronicle after Traffic.ended traffic events).map Ended.outcome := by
  have hsame : (fun (traffic : Traffic) event =>
      (traffic.told event).filterMap reported?) = fun traffic event =>
        (traffic.ended event).filterMap fun ended => some ended.outcome := by
    funext traffic event
    exact reported_told traffic event
  calc
    (chronicle after told traffic events).filterMap reported? =
        (chronicle after Traffic.ended traffic events).filterMap
          fun ended => some ended.outcome := by
      rw [filterMap_chronicle, filterMap_chronicle, hsame]
    _ = (chronicle after Traffic.ended traffic events).map Ended.outcome :=
      congrFun List.filterMap_eq_map' _

end Traffic

/-- Over every run the region is told the outcome of each call when it ends, and
what operators command, in this order and nothing else.  Each call that has begun
has ended once or still waits, and those that have ended are counted, one by one.
At any time the call that an event settles ends by it, if it waits, with the outcome
that it is settled with, and no other does.  A request that comes in begins a call just
if it is forwarded; it changes no count, and not the region unless it is a command. -/
theorem each_call_reported_once (traffic : Traffic) (events : List Traffic.Event) :
    let final := events.foldl Traffic.after traffic
    let told := chronicle Traffic.after Traffic.told traffic events
    let ended := chronicle Traffic.after Traffic.ended traffic events
    let begun := chronicle Traffic.after Traffic.begun traffic events
    final.state.gateway.failover =
        (Failover.run traffic.service.plan.failover traffic.state.gateway.failover
          told).1 ∧
      told.filterMap Traffic.reported? = ended.map Ended.outcome ∧
      (traffic.waitingPlaces ++ begun).Nodup ∧
      (ended.map Ended.place ++ final.waitingPlaces).Perm
        (traffic.waitingPlaces ++ begun) ∧
      backendOutcomes final.counted =
        backendOutcomes traffic.counted ++
          ended.map (fun ended => ended.outcome.label) ∧
      (backendOutcomes final.counted).length + final.waitingPlaces.length =
        (backendOutcomes traffic.counted).length + traffic.waitingPlaces.length +
          begun.length ∧
      (∀ event place outcome, ⟨place, outcome⟩ ∈ final.ended event ↔
        (final.pending? place).isSome = true ∧ event.Settles place outcome) ∧
      (∀ surroundings inbound,
        let arrival := Traffic.Event.arrive surroundings inbound
        let next := traffic.after arrival
        (traffic.begun arrival ≠ [] ↔
            traffic.service.Forwards surroundings inbound traffic.state) ∧
          backendOutcomes next.counted = backendOutcomes traffic.counted ∧
          (traffic.service.command? inbound = none →
            next.state.gateway.failover = traffic.state.gateway.failover)) ∧
      ∀ last responses, traffic.run events = .ok (last, responses) → last = final := by
  intro final told ended begun
  have hbooks := Traffic.books_run traffic events
  refine ⟨hbooks.failover, Traffic.reported_chronicle traffic events, hbooks.nodup,
    hbooks.places, hbooks.counted, hbooks.length_eq, fun _ _ _ => Traffic.mem_ended_iff,
    ?_, ?_⟩
  · intro surroundings inbound arrival next
    have harrival := Traffic.books_after traffic arrival
    refine ⟨?_, ?_, ?_⟩
    · rw [← Service.begins_iff]
      simp [arrival, Traffic.begun, Option.isSome_iff_ne_none]
    · simpa [arrival, Traffic.ended, Traffic.Event.ending?] using harrival.counted
    · intro hnone
      have htold : traffic.told arrival = [] := by
        simp [arrival, Traffic.told, Traffic.ended, Traffic.Event.ending?,
          Traffic.commands, Service.commands, hnone]
      have hregion := harrival.failover
      rw [htold] at hregion
      exact hregion
  · intro last responses hrun
    exact (Traffic.final_of_run hrun).symm

/-- An operator asks for the primary. -/
def restoreCommand : Inbound :=
  ⟨"POST", "/admin/region/failover", .ofList [("content-type", "application/json")],
    .ok "\x7b\"region\": \"primary\"\x7d".toUTF8⟩

/-- Of two requests one is given up and the other finds no answer in time; the
primary is restored in between, and nobody is left to leave once more. -/
def troubledDay : List Traffic.Event :=
  [.arrive quietSurroundings debugRequest, .arrive quietSurroundings debugRequest,
    .leave 1, .arrive quietSurroundings restoreCommand, .reply 0 .timedOut, .leave 1]

theorem troubled_day_reported_once :
    ∃ final responses, edgeTraffic.run troubledDay = .ok (final, responses) ∧
      edgeTraffic.service.command? debugRequest = none ∧
      chronicle Traffic.after Traffic.begun edgeTraffic troubledDay = [0, 1] ∧
      chronicle Traffic.after Traffic.told edgeTraffic troubledDay =
        [.observe (.transportError "client disconnected"), .operate (some "primary"),
          .observe .timedOut].map (fun operation => (Instant.start, operation)) ∧
      final.waitingPlaces = [] ∧
      backendOutcomes final.counted = ["transport_error", "timeout"] ∧
      final.state.gateway.failover.activeRegion = "eu-central" := by
  have hchecked : (edgeTraffic.run troubledDay).toOption.any
      (fun outcome => outcome.1.waitingPlaces = []) = true := by
    decide +kernel
  have htold : chronicle Traffic.after Traffic.told edgeTraffic troubledDay =
      [.observe (.transportError "client disconnected"), .operate (some "primary"),
        .observe .timedOut].map (fun operation => (Instant.start, operation)) := by
    decide +kernel
  have hended : chronicle Traffic.after Traffic.ended edgeTraffic troubledDay =
      [⟨1, .transportError "client disconnected"⟩, ⟨0, .timedOut⟩] := by
    decide +kernel
  obtain ⟨⟨final, responses⟩, hrun, hwaiting⟩ := exists_ok_of_any hchecked
  obtain ⟨hregion, -, -, -, hcounted, -, -, -, hfinal⟩ :=
    each_call_reported_once edgeTraffic troubledDay
  rw [← hfinal final responses hrun, htold] at hregion
  rw [← hfinal final responses hrun, hended] at hcounted
  refine ⟨final, responses, hrun, by decide +kernel, by decide +kernel, htold,
    of_decide_eq_true hwaiting, hcounted, ?_⟩
  rw [hregion]
  decide +kernel

end EdgeGateway.Gateway
