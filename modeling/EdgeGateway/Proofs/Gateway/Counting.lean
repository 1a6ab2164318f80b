import EdgeGateway.Gateway.Traffic
import EdgeGateway.Proofs.Cors.Question
import EdgeGateway.Proofs.Gateway.Handling

/-!
# Which counters are those of calls

Calls to backends have a counter of their own, with a label for each outcome.  It
is increased where an outcome is taken in and nowhere else: not while a version is
looked up, a preflight is answered, the routes are loaded or a region is moved.
-/

namespace EdgeGateway

open Observe (Counter)

namespace Observe

/-- The label under which a call to a backend is counted. -/
def Counter.backendOutcome? : Counter → Option String
  | backendRequests outcome => some outcome
  | _ => none

/-- The labels of all calls to backends that are counted, oldest first. -/
def backendOutcomes (counted : List Counter) : List String :=
  counted.filterMap Counter.backendOutcome?

@[simp] theorem backendOutcomes_nil : backendOutcomes [] = [] := rfl

@[simp] theorem backendOutcomes_append (first second : List Counter) :
    backendOutcomes (first ++ second) =
      backendOutcomes first ++ backendOutcomes second :=
  List.filterMap_append

@[simp] theorem backendOutcomes_cons (counter : Counter) (counted : List Counter) :
    backendOutcomes (counter :: counted) =
      counter.backendOutcome?.toList ++ backendOutcomes counted := by
  cases h : counter.backendOutcome? <;> simp [backendOutcomes, h]

end Observe

open Observe (Counter.backendOutcome? backendOutcomes)

theorem Version.backendOutcomes_resolve {settings : Settings} {now : Instant}
    {tenantId : Option String} {path : String} {store : Store.Memory}
    {cache : PreferenceCache} {resolved : ResolveStep}
    (hresolve : resolve settings now tenantId path store cache = .ok resolved) :
    backendOutcomes resolved.counted = [] := by
  obtain ⟨-, results, hcounted⟩ := resolve_spec hresolve
  rw [hcounted, backendOutcomes, List.filterMap_map]
  exact List.filterMap_eq_nil_iff.mpr fun _ _ => rfl

theorem Cors.backendOutcomes_handlePreflight {handler : PreflightHandler}
    {now : Instant} {request : Http.Request} {cache : PreflightCache}
    {preflight : PreflightStep}
    (hpreflight : handlePreflight handler now request cache = .ok preflight) :
    backendOutcomes preflight.counted = [] := by
  cases hkind : isPreflight request with
  | false =>
      rw [handlePreflight_of_other handler now cache hkind] at hpreflight
      rw [← Except.ok.inj hpreflight]
      rfl
  | true =>
      cases hlive : cache.live? now (PreflightQuestion.ofRequest request).key with
      | some allowance =>
          rw [handlePreflight_of_live handler hkind hlive] at hpreflight
          rw [← Except.ok.inj hpreflight]
          rfl
      | none =>
          rw [handlePreflight_of_forgotten handler hkind hlive] at hpreflight
          split at hpreflight
          next =>
            obtain ⟨kept, -, rfl⟩ := map_eq_ok_iff.mp hpreflight
            rfl
          next =>
            rw [← Except.ok.inj hpreflight]
            rfl

namespace Route

theorem backendOutcomes_resolveRows (rows : List Row) :
    backendOutcomes (resolveRows rows).2 = [] := by
  induction rows with
  | nil => rfl
  | cons row rows ih =>
      simp only [resolveRows]
      split
      next => exact ih
      next => split <;> simpa [Counter.backendOutcome?] using ih

namespace Cache

theorem backendOutcomes_fallback (cache : Cache) :
    backendOutcomes cache.fallback.2 = [] := by
  unfold fallback
  split <;> rfl

theorem backendOutcomes_collect (cache : Cache) (slot : Nat) :
    backendOutcomes ((cache.collect? slot).getD cache.fallback).2 = [] := by
  unfold collect?
  split
  next => rfl
  next => exact backendOutcomes_fallback cache
  next => exact backendOutcomes_fallback cache

theorem backendOutcomes_finish (slot : Nat)
    (answer : Except Store.Error (List Row)) (cache : Cache) :
    backendOutcomes (cache.finish slot answer).2 = [] := by
  cases answer with
  | error _ => rfl
  | ok rows => simp [finish, backendOutcomes_resolveRows, Counter.backendOutcome?]

theorem backendOutcomes_list (now : Instant) (store : Store.Memory) (cache : Cache) :
    backendOutcomes (cache.list now store).counted = [] := by
  unfold list
  dsimp only
  split
  next => simp [backendOutcomes_finish, backendOutcomes_collect]
  next => exact backendOutcomes_collect _ _

end Cache

theorem Refresh.backendOutcomes_steps (count : Nat) (refresh : Refresh) :
    backendOutcomes (refresh.steps count).2 = [] := by
  induction count generalizing refresh with
  | zero => rfl
  | succ count ih =>
      rw [steps]
      cases hstep : refresh.step? with
      | none => rfl
      | some stepped =>
          have hquiet : backendOutcomes stepped.2 = [] := by
            unfold step? at hstep
            split at hstep <;> cases hstep <;> rfl
          simp [hquiet, ih]

end Route

namespace Failover

theorem backendOutcomes_recordFailure (config : Config.Failover) (now : Instant)
    (cause : Cause) (state : State) :
    backendOutcomes (recordFailure config now cause state).counted = [] := by
  unfold recordFailure
  split
  next => rfl
  next =>
    dsimp only
    split <;> rfl

theorem backendOutcomes_triggerFailover (config : Config.Failover) (state : State) :
    backendOutcomes (triggerFailover config state).counted = [] := by
  unfold triggerFailover
  split
  next => rfl
  split
  next => rfl
  split <;> rfl

theorem backendOutcomes_failoverTo (config : Config.Failover) (region : String)
    (state : State) :
    backendOutcomes (failoverTo config region state).counted = [] := by
  unfold failoverTo
  split
  next => rfl
  split <;> rfl

theorem backendOutcomes_restorePrimary (config : Config.Failover) (state : State) :
    backendOutcomes (restorePrimary config state).counted = [] := by
  unfold restorePrimary
  split
  next => rfl
  dsimp only
  split <;> rfl

theorem backendOutcomes_observe (config : Config.Failover) (now : Instant)
    (outcome : Outcome) (state : State) :
    backendOutcomes (observe config now outcome state).counted = [] := by
  unfold observe
  split
  next => exact backendOutcomes_recordFailure config now _ state
  next => rfl

theorem backendOutcomes_operate {config : Config.Failover} {argument : Option String}
    {state : State} {step : Step} (hoperate : operate config argument state = .ok step) :
    backendOutcomes step.counted = [] := by
  unfold operate at hoperate
  split at hoperate
  next => simp at hoperate
  split at hoperate <;> cases hoperate
  · exact backendOutcomes_triggerFailover config state
  · exact backendOutcomes_restorePrimary config state
  · exact backendOutcomes_failoverTo config _ state

end Failover

namespace Gateway

variable {plan : Plan} {freshId : String} {rollBelow : Nat → Nat}
variable {request : Http.Request} {state : State} {handled : Handled}

theorem backendOutcomes_handle
    (hhandle : handle plan freshId rollBelow request state = .ok handled) :
    backendOutcomes handled.counted = [] := by
  cases handling hhandle with
  | preflight _ _ _ hresolve hpreflight _ _ _ _ hcounted =>
      simp [hcounted, Version.backendOutcomes_resolve hresolve,
        Cors.backendOutcomes_handlePreflight hpreflight]
  | routed _ _ hresolve hpreflight _ _ _ _ hcounted =>
      simp [hcounted, Version.backendOutcomes_resolve hresolve,
        Cors.backendOutcomes_handlePreflight hpreflight,
        Route.Cache.backendOutcomes_list]

end Gateway

end EdgeGateway
