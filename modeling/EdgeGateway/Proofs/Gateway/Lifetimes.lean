import EdgeGateway.Proofs.Config.Valid
import EdgeGateway.Proofs.Gateway.Course
import EdgeGateway.Proofs.Http.Fields

/-!
# Lifetimes that the clock can show

A preference and an allowed preflight are kept until an instant that lies a lifetime
ahead.  A configuration is accepted with any lifetime, and an instant that the clock
cannot show ends the request that needs it.  So a gateway decides about all requests up
to a time exactly if both lifetimes still fit when they begin at that time.  The lifetime
of preflights does not matter if none is allowed.
-/

namespace EdgeGateway

open Cors (isPreflight)
open Cors.PreflightQuestion (ofRequest)

namespace Http

/-- Whether the fields of a request have legal names, in lower case, and legal values. -/
def Request.Legal (request : Request) : Prop :=
  ∀ field ∈ request.headers.fields,
    isHeaderName field.1 = true ∧ Text.lowerAscii field.1 = field.1 ∧
      isHeaderValue field.2 = true

end Http

namespace Gateway

/-- Whether what comes in with an event is legal. -/
def Event.Legal : Event → Prop
  | .handle request => request.Legal
  | .abandon request => request.Legal
  | _ => True

def Event.span : Event → Nat
  | .wait span => span.nanos
  | _ => 0

/-- How long a run lasts. -/
def waited : List Event → Nat
  | [] => 0
  | event :: events => event.span + waited events

/-- Whether there is a preflight that the policy allows. -/
def AllowsSome (policy : Cors.Policy) : Prop :=
  ∃ request : Http.Request, request.Legal ∧ isPreflight request = true ∧
    ∃ allowance, (ofRequest request).decision policy = .ok allowance

/-- Whether the lifetimes that begin at a time end before the clock does. -/
structure Fits (config : Config.Gateway) (time : Nat) : Prop where
  preferences : time + config.versioning.effectiveCacheTtl.nanos ≤ Instant.limit
  preflights : AllowsSome (Cors.Policy.ofConfig config.cors) →
    time + config.cors.effectiveCacheTtl.nanos ≤ Instant.limit

/-- The lifetime of preferences is the configured one, which is no longer zero when it is
handed on. -/
theorem versions_ttl_ofConfig (config : Config.Gateway) :
    (Plan.ofConfig config).versions.ttl = config.versioning.effectiveCacheTtl := by
  show Config.effectiveTtl _ (Config.effectiveTtl _ config.versioning.cacheTtl) =
    Config.effectiveTtl _ config.versioning.cacheTtl
  unfold Config.effectiveTtl
  split <;> simp_all

/-! ## Lifetimes that fit -/

theorem now_of_handle {plan : Plan} {freshId : String} {rollBelow : Nat → Nat}
    {request : Http.Request} {state : State} {handled : Handled}
    (hhandle : handle plan freshId rollBelow request state = .ok handled) :
    handled.state.now = state.now := by
  cases handling hhandle with
  | preflight _ _ _ _ _ _ _ hstate => rw [hstate]; rfl
  | routed _ _ _ _ _ _ hstate => rw [hstate]; rfl

section Fits

variable {config : Config.Gateway} {time : Nat} {state : State}

theorem Fits.handle (hfits : Fits config time) (hnow : state.now.nanos ≤ time)
    {request : Http.Request} (hlegal : request.Legal) (freshId : String)
    (rollBelow : Nat → Nat) :
    ∃ handled, Gateway.handle (.ofConfig config) freshId rollBelow request state =
      .ok handled := by
  cases hhandle : Gateway.handle (.ofConfig config) freshId rollBelow request state with
  | ok handled => exact ⟨handled, rfl⟩
  | error fault =>
      exfalso
      have hkept : ∀ ttl : Duration, time + ttl.nanos ≤ Instant.limit →
          ¬ Instant.limit < state.now.nanos + ttl.nanos := fun ttl hfit => by omega
      rcases handle_eq_error_iff.mp ⟨fault, hhandle⟩ with
        ⟨_, _, -, -, -, hlate⟩ | ⟨hyes, hallowed, -, hlate⟩
      · rw [versions_ttl_ofConfig] at hlate
        exact hkept _ hfits.preferences hlate
      · exact hkept _ (hfits.preflights ⟨request, hlegal, hyes, hallowed⟩) hlate

/-- One event takes place, and takes as long as is waited. -/
theorem Fits.step (hfits : Fits config time) (hnow : state.now.nanos ≤ time)
    {event : Event} (hlegal : event.Legal) (chance : Chance) :
    ∃ stepped, Gateway.step (.ofConfig config) chance state event = .ok stepped ∧
      stepped.state.now.nanos = state.now.nanos + event.span := by
  cases event with
  | handle request | abandon request =>
      obtain ⟨handled, hhandle⟩ :=
        hfits.handle hnow hlegal chance.freshId chance.rollBelow
      refine ⟨_, bind_eq_ok_iff.mpr ⟨handled, hhandle, rfl⟩, ?_⟩
      exact congrArg Instant.nanos (now_of_handle hhandle)
  | _ => exact ⟨_, rfl, rfl⟩

theorem Fits.run (hfits : Fits config time) {events : List Event}
    (hlegal : ∀ event ∈ events, event.Legal)
    (hwaited : state.now.nanos + waited events ≤ time) (chance : Chance) :
    ∃ result, Gateway.run (.ofConfig config) chance state events = .ok result := by
  induction events generalizing state with
  | nil => exact ⟨(state, []), rfl⟩
  | cons event events ih =>
      obtain ⟨hfirst, hrest⟩ := List.forall_mem_cons.mp hlegal
      rw [waited] at hwaited
      have hnow : state.now.nanos ≤ time := by omega
      obtain ⟨stepped, hstep, hspan⟩ := hfits.step hnow hfirst chance
      have hmore : stepped.state.now.nanos + waited events ≤ time := by omega
      obtain ⟨result, hrun⟩ := ih hrest hmore
      exact ⟨_, bind_eq_ok_iff.mpr ⟨stepped, hstep,
        bind_eq_ok_iff.mpr ⟨result, hrun, rfl⟩⟩⟩

end Fits

/-! ## Lifetimes that do not fit -/

def quiet : Chance := ⟨"fresh", fun _ => 0⟩

/-- A gateway that has only waited. -/
def idle (config : Config.Gateway) (time : Nat) : State :=
  { State.initial config {} with now := Instant.start.advance ⟨time⟩ }

/-- A request of a tenant for a resource. -/
def resourceRequest (config : Config.Gateway) : Http.Request :=
  ⟨"GET", "/orders", none, ⟨[(Text.lowerAscii config.versioning.tenantHeader, "T1")]⟩⟩

theorem legal_resourceRequest {config : Config.Gateway} (hvalid : config.validate = .ok ()) :
    (resourceRequest config).Legal := by
  have hname := ((Config.Gateway.validate_eq_ok_iff config).mp hvalid).tenantHeader
  have hvalue : Http.isHeaderValue "T1" = true := by decide
  exact List.forall_mem_singleton.mpr ⟨(Http.isHeaderName_lowerAscii _).trans hname,
    Text.lowerAscii_lowerAscii _, hvalue⟩

theorem tenantOf_resourceRequest (config : Config.Gateway) :
    tenantOf (.ofConfig config) (resourceRequest config) = some "T1" := by
  have hheader :
      (resourceRequest config).header? config.versioning.tenantHeader = some "T1" := by
    simp only [Http.Request.header?, Http.Headers.text?, Http.Headers.first?,
      Http.Headers.values, resourceRequest, List.filterMap_cons, List.filterMap_nil, if_true]
    decide
  simp only [tenantOf, Http.Context.ofRequest, Plan.ofConfig, Settings.ofConfig, hheader]
  decide

theorem losesPreference_idle {config : Config.Gateway} {time : Nat}
    (hlate : Instant.limit < time + config.versioning.effectiveCacheTtl.nanos) :
    LosesPreference (.ofConfig config) (resourceRequest config) (idle config time) := by
  have hkey : Version.key? (some "T1") "/orders" = some (.of "T1" "/orders") := by
    decide +kernel
  refine ⟨_, _, (tenantOf_resourceRequest config).symm ▸ hkey, rfl, rfl, ?_⟩
  rw [versions_ttl_ofConfig]
  show Instant.limit < 0 + time + config.versioning.effectiveCacheTtl.nanos
  omega

theorem losesAllowance_idle {config : Config.Gateway} {time : Nat} {request : Http.Request}
    (hyes : isPreflight request = true)
    (hallowed : ∃ allowance,
      (ofRequest request).decision (Cors.Policy.ofConfig config.cors) = .ok allowance)
    (hlate : Instant.limit < time + config.cors.effectiveCacheTtl.nanos) :
    LosesAllowance (.ofConfig config) request (idle config time) := by
  refine ⟨hyes, hallowed, rfl, ?_⟩
  show Instant.limit < 0 + time + config.cors.effectiveCacheTtl.nanos
  omega

/-- A gateway that decides about all requests after some time has lifetimes that fit. -/
theorem fits_of_handle {config : Config.Gateway} (hvalid : config.validate = .ok ())
    {time : Nat} (hhandle : ∀ request : Http.Request, request.Legal → ∃ handled,
      handle (.ofConfig config) quiet.freshId quiet.rollBelow request (idle config time) =
        .ok handled) : Fits config time where
  preferences := by
    by_contra hlate
    have hlost := losesPreference_idle (Nat.not_le.mp hlate)
    obtain ⟨handled, hdecided⟩ := hhandle _ (legal_resourceRequest hvalid)
    obtain ⟨fault, hfault⟩ := handle_eq_error_iff.mpr (Or.inl hlost)
    exact absurd (hdecided.symm.trans hfault) (by simp)
  preflights := by
    rintro ⟨request, hlegal, hyes, hallowed⟩
    by_contra hlate
    have hlost := losesAllowance_idle hyes hallowed (Nat.not_le.mp hlate)
    obtain ⟨handled, hdecided⟩ := hhandle request hlegal
    obtain ⟨fault, hfault⟩ := handle_eq_error_iff.mpr (Or.inr hlost)
    exact absurd (hdecided.symm.trans hfault) (by simp)

theorem handle_of_run {config : Config.Gateway} {time : Nat} {request : Http.Request}
    {result : State × List Observe.Counter}
    (hrun : run (.ofConfig config) quiet (.initial config {})
      [.wait ⟨time⟩, .handle request] = .ok result) :
    ∃ handled, handle (.ofConfig config) quiet.freshId quiet.rollBelow request
      (idle config time) = .ok handled := by
  obtain ⟨waited, hwait, hmore⟩ := bind_eq_ok_iff.mp hrun
  obtain rfl := pure_eq_ok_iff.mp hwait
  obtain ⟨rest, hrest, -⟩ := bind_eq_ok_iff.mp hmore
  obtain ⟨stepped, hstep, -⟩ := bind_eq_ok_iff.mp hrest
  obtain ⟨handled, hhandle, -⟩ := bind_eq_ok_iff.mp hstep
  exact ⟨handled, hhandle⟩

theorem course_idle (config : Config.Gateway) (time : Nat) :
    Course (.ofConfig config) Event.Legal (.initial config {}) (idle config time) :=
  .single (.event quiet (.wait ⟨time⟩) trivial rfl)

/-- Up to a time, all runs of an accepted configuration come to their end, and all states
that a gateway can reach decide about all requests, if and only if the lifetimes that
begin at that time end before the clock does. -/
theorem decided_iff_fits {config : Config.Gateway} (hvalid : config.validate = .ok ())
    (time : Nat) :
    ((∀ (chance : Chance) store events, (∀ event ∈ events, Event.Legal event) →
        waited events ≤ time →
        ∃ result, run (.ofConfig config) chance (.initial config store) events = .ok result) ↔
      Fits config time) ∧
    ((∀ (chance : Chance) store state (request : Http.Request),
        Course (.ofConfig config) Event.Legal (.initial config store) state →
        state.now.nanos ≤ time → request.Legal →
        ∃ handled, handle (.ofConfig config) chance.freshId chance.rollBelow request state =
          .ok handled) ↔
      Fits config time) := by
  refine ⟨⟨fun hruns => ?_, fun hfits chance store events hlegal hwaited => ?_⟩,
    ⟨fun hdecided => ?_, fun hfits chance store state request _ hnow hlegal => ?_⟩⟩
  · refine fits_of_handle hvalid fun request hlegal => ?_
    have hlegals : ∀ event ∈ [.wait ⟨time⟩, .handle request], Event.Legal event :=
      List.forall_mem_cons.mpr ⟨trivial, List.forall_mem_singleton.mpr hlegal⟩
    obtain ⟨result, hrun⟩ := hruns quiet {} _ hlegals (by simp [waited, Event.span])
    exact handle_of_run hrun
  · refine hfits.run hlegal ?_ chance
    simpa [State.initial, Instant.start] using hwaited
  · refine fits_of_handle hvalid fun request hlegal =>
      hdecided quiet {} _ request (course_idle config time) ?_ hlegal
    exact Nat.le_of_eq (Nat.zero_add time)
  · exact hfits.handle hnow hlegal chance.freshId chance.rollBelow

/-- With the lifetimes of the defaults a gateway still decides after a hundred years. -/
theorem century_decided :
    Config.Gateway.validate {} = .ok () ∧
      ∃ result, run (.ofConfig {}) quiet (.initial {} {})
        [.wait (.ofSeconds 3153600000), .handle (resourceRequest {})] = .ok result := by
  have hvalid : Config.Gateway.validate {} = .ok () := rfl
  have hfits : Fits {} (Duration.ofSeconds 3153600000).nanos :=
    ⟨by decide +kernel, fun _ => by decide +kernel⟩
  have hlegal : ∀ event ∈ [.wait (.ofSeconds 3153600000), .handle (resourceRequest {})],
      Event.Legal event :=
    List.forall_mem_cons.mpr
      ⟨trivial, List.forall_mem_singleton.mpr (legal_resourceRequest hvalid)⟩
  exact ⟨hvalid, (decided_iff_fits hvalid _).1.mpr hfits quiet {} _ hlegal
    (by decide +kernel)⟩

/-- The longest lifetime in whole seconds. -/
def lastingConfig : Config.Gateway :=
  { versioning := { cacheTtl := .ofSeconds 18446744073709551615 } }

/-- It is accepted, and the first request of a tenant comes to no end. -/
theorem lasting_preference_undecided :
    lastingConfig.validate = .ok () ∧
      ∀ result, run (.ofConfig lastingConfig) quiet (.initial lastingConfig {})
        [.handle (resourceRequest lastingConfig)] ≠ .ok result := by
  refine ⟨rfl, fun result hrun => ?_⟩
  have hnone : (run (.ofConfig lastingConfig) quiet (.initial lastingConfig {})
      [.handle (resourceRequest lastingConfig)]).toOption.isNone = true := by
    decide +kernel
  rw [hrun] at hnone
  simp [Except.toOption] at hnone

end Gateway

end EdgeGateway
