import EdgeGateway.Failover.Operation

/-!
# What operations change

While failover is enabled every operation has one of five effects on the state:
a failure is counted, the count ends, an operator moves the active region, the
primary is restored, or nothing happens.  `Operation.change` names the effect in
terms of the state before, and `state_apply` says that it is all there is to the
new state.
-/

namespace EdgeGateway.Failover

inductive Change where
  | failure
  | reset
  | move (target : String)
  | restore
  | nothing
  deriving Repr, DecidableEq

namespace Change

def result (config : Config.Failover) (now : Instant) (state : State) :
    Change → State
  | failure => (afterFailure config state now).1
  | reset => { state with failureCount := 0 }
  | move target => { state with activeRegion := target, failureCount := 0 }
  | restore =>
      { state with activeRegion := config.primaryRegion, failureCount := 0 }
  | nothing => state

/-- Leaving the primary for the first backup. -/
def ofTrigger (config : Config.Failover) (state : State) : Change :=
  if state.activeRegion = config.primaryRegion then
    match firstBackup? config config.primaryRegion with
    | some target => move target
    | none => nothing
  else nothing

def ofMove (region : String) (state : State) : Change :=
  if state.activeRegion = region then nothing else move region

end Change

namespace Operation

/-- The cause of the failure that an operation reports, if it reports one. -/
def cause? : Operation → Option Cause
  | fail cause => some cause
  | observe outcome => outcome.cause?
  | _ => none

/-- Successes, resets and returns to the primary start the count over. -/
def startsOver (config : Config.Failover) : Operation → Bool
  | observe outcome => outcome.cause?.isNone
  | reset => true
  | restore => true
  | operate argument => Request.ofArgument config argument = .restore
  | _ => false

/-- Whether an operator asks for a region. -/
def isRequest : Operation → Bool
  | trigger | moveTo _ | restore | operate _ => true
  | _ => false

def change (config : Config.Failover) (state : State) : Operation → Change
  | fail _ => .failure
  | observe outcome => if outcome.cause?.isSome then .failure else .reset
  | reset => .reset
  | trigger => .ofTrigger config state
  | moveTo region => .ofMove region state
  | restore => .restore
  | operate argument =>
      match Request.ofArgument config argument with
      | .failover => .ofTrigger config state
      | .restore => .restore
      | .region name => .ofMove name state
      | .unknown _ => .nothing

end Operation

/-! ## One failure -/

/-- The count that a failure reaches. -/
def reached (config : Config.Failover) (state : State) (now : Instant) : Nat :=
  (if windowExpired config state now then 0 else state.failureCount) + 1

theorem reached_le (config : Config.Failover) (state : State) (now : Instant) :
    reached config state now ≤ state.failureCount + 1 := by
  unfold reached
  split <;> omega

/-- The region that the primary gives way to when the threshold is reached. -/
def escape? (config : Config.Failover) (state : State) : Option String :=
  if state.activeRegion = config.primaryRegion then
    firstBackup? config state.activeRegion
  else none

theorem afterFailure_below {config : Config.Failover} {state : State}
    {now : Instant} (hbelow : reached config state now < config.failureThreshold) :
    afterFailure config state now =
      (⟨state.activeRegion, reached config state now, some now⟩, none) := by
  unfold reached at *
  simp only [afterFailure, if_pos hbelow]

theorem afterFailure_full {config : Config.Failover} {state : State}
    {now : Instant} (hfull : config.failureThreshold ≤ reached config state now) :
    afterFailure config state now =
      (⟨(escape? config state).getD state.activeRegion, 0, some now⟩,
        escape? config state) := by
  unfold reached at *
  simp only [afterFailure, if_neg (Nat.not_lt.mpr hfull)]
  rfl

theorem lastFailure_afterFailure (config : Config.Failover) (state : State)
    (now : Instant) :
    (afterFailure config state now).1.lastFailure = some now := by
  rcases Nat.lt_or_ge (reached config state now) config.failureThreshold with
    hbelow | hfull
  · rw [afterFailure_below hbelow]
  · rw [afterFailure_full hfull]

/-- The first backup is another region than the one it replaces. -/
theorem escape?_ne {config : Config.Failover} {state : State} {target : String}
    (htarget : escape? config state = some target) :
    target ≠ state.activeRegion := by
  unfold escape? at htarget
  split at htarget
  · simpa using List.find?_some htarget
  · simp at htarget

/-! ## Every operation -/

section Enabled

variable {config : Config.Failover} (hon : config.enabled = true)
include hon

theorem state_recordFailure (now : Instant) (cause : Cause) (state : State) :
    (recordFailure config now cause state).state =
      (afterFailure config state now).1 := by
  simp [recordFailure, hon]

theorem resetFailures_enabled (state : State) :
    resetFailures config state = { state with failureCount := 0 } := by
  simp [resetFailures, hon]

theorem state_triggerFailover (now : Instant) (state : State) :
    (triggerFailover config state).state =
      (Change.ofTrigger config state).result config now state := by
  by_cases hprimary : state.activeRegion = config.primaryRegion
  · cases hbackup : firstBackup? config config.primaryRegion <;>
      simp [triggerFailover, Change.ofTrigger, Change.result, transition, hon,
        hprimary, hbackup]
  · simp [triggerFailover, Change.ofTrigger, Change.result, hon, hprimary]

theorem state_failoverTo (now : Instant) (region : String) (state : State) :
    (failoverTo config region state).state =
      (Change.ofMove region state).result config now state := by
  by_cases hsame : state.activeRegion = region <;>
    simp [failoverTo, Change.ofMove, Change.result, transition, hon, hsame]

theorem state_restorePrimary (state : State) :
    (restorePrimary config state).state =
      { state with activeRegion := config.primaryRegion, failureCount := 0 } := by
  simp [restorePrimary, hon]

/-- The state after an operation is the result of its change. -/
theorem state_apply (now : Instant) (state : State) (operation : Operation) :
    (operation.apply config now state).state =
      (operation.change config state).result config now state := by
  cases operation with
  | fail cause => exact state_recordFailure hon now cause state
  | observe outcome =>
      cases hcause : outcome.cause? with
      | some cause =>
          simpa [Operation.apply, Operation.change, Failover.observe, hcause,
            Change.result] using state_recordFailure hon now cause state
      | none =>
          simpa [Operation.apply, Operation.change, Failover.observe, hcause,
            Change.result] using resetFailures_enabled hon state
  | reset => exact resetFailures_enabled hon state
  | trigger => exact state_triggerFailover hon now state
  | moveTo region => exact state_failoverTo hon now region state
  | restore => exact state_restorePrimary hon state
  | operate argument =>
      simp only [Operation.apply, Operation.change, operate, hon, Bool.not_true,
        Bool.false_eq_true, if_false]
      cases Request.ofArgument config argument with
      | failover => exact state_triggerFailover hon now state
      | restore => exact state_restorePrimary hon state
      | region name => exact state_failoverTo hon now name state
      | unknown name => rfl

end Enabled

/-! ## Which operations have which change -/

namespace Change

/-- What an operation is, judged by its change. -/
def Fits (config : Config.Failover) (state : State) (operation : Operation) :
    Change → Prop
  | failure =>
      operation.cause?.isSome = true ∧ operation.startsOver config = false ∧
        operation.isRequest = false
  | reset => operation.cause? = none ∧ operation.startsOver config = true
  | move target =>
      operation.cause? = none ∧ operation.startsOver config = false ∧
        operation.isRequest = true ∧ target ≠ state.activeRegion
  | restore => operation.cause? = none ∧ operation.startsOver config = true
  | nothing => operation.cause? = none ∧ operation.startsOver config = false

variable {config : Config.Failover} {state : State} {operation : Operation}
variable (hcause : operation.cause? = none)
variable (hstarts : operation.startsOver config = false)
variable (hrequest : operation.isRequest = true)
include hcause hstarts hrequest

theorem fits_ofTrigger : (ofTrigger config state).Fits config state operation := by
  unfold ofTrigger
  by_cases hprimary : state.activeRegion = config.primaryRegion
  · rw [if_pos hprimary]
    cases hbackup : firstBackup? config config.primaryRegion with
    | none => exact ⟨hcause, hstarts⟩
    | some target =>
        have hother : target ≠ config.primaryRegion := by
          simpa using List.find?_some hbackup
        exact ⟨hcause, hstarts, hrequest, hprimary ▸ hother⟩
  · rw [if_neg hprimary]
    exact ⟨hcause, hstarts⟩

theorem fits_ofMove (region : String) :
    (ofMove region state).Fits config state operation := by
  unfold ofMove
  by_cases hsame : state.activeRegion = region
  · rw [if_pos hsame]
    exact ⟨hcause, hstarts⟩
  · rw [if_neg hsame]
    exact ⟨hcause, hstarts, hrequest, Ne.symm hsame⟩

end Change

/-- Every operation is what its change says. -/
theorem fits_change (config : Config.Failover) (state : State)
    (operation : Operation) :
    (operation.change config state).Fits config state operation := by
  cases operation with
  | fail cause => exact ⟨rfl, rfl, rfl⟩
  | observe outcome =>
      cases hcause : outcome.cause? <;>
        simp [Operation.change, Change.Fits, Operation.cause?,
          Operation.startsOver, Operation.isRequest, hcause]
  | reset => exact ⟨rfl, rfl⟩
  | trigger => exact Change.fits_ofTrigger rfl rfl rfl
  | moveTo region => exact Change.fits_ofMove rfl rfl rfl region
  | restore => exact ⟨rfl, rfl⟩
  | operate argument =>
      have hstarts : ((Operation.operate argument).startsOver config = true) ↔
          Request.ofArgument config argument = .restore := by
        simp [Operation.startsOver]
      simp only [Operation.change]
      cases hrequest : Request.ofArgument config argument with
      | failover =>
          exact Change.fits_ofTrigger rfl (by simp [Operation.startsOver, hrequest]) rfl
      | restore => exact ⟨rfl, hstarts.mpr hrequest⟩
      | region name =>
          exact Change.fits_ofMove rfl (by simp [Operation.startsOver, hrequest]) rfl name
      | unknown name => exact ⟨rfl, by simp [Operation.startsOver, hrequest]⟩

/-- Only the reports of failures count one. -/
theorem change_eq_failure_iff (config : Config.Failover) (state : State)
    (operation : Operation) :
    operation.change config state = .failure ↔ operation.cause?.isSome := by
  have hfits := fits_change config state operation
  cases hchange : operation.change config state <;>
    simp_all [Change.Fits]

end EdgeGateway.Failover
