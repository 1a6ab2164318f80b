import EdgeGateway.Proofs.Failover.Stickiness

/-!
# The warning of a failover without a target

With failover enabled the primary can be left exactly if some backup is another
region: then the first such backup is one request away, and as many failures as
the threshold says lead there as well.  The configuration is reported when there
is no backup at all.  Between the two lies one kind of configuration, the primary
as its own and only backup, where failover goes nowhere and nobody is warned.
-/

namespace EdgeGateway.Failover

/-- Failures, successes, and requests for whichever region comes next. -/
def Operation.isUndirected : Operation → Bool
  | fail _ | observe _ | reset | trigger => true
  | _ => false

/-- Whether some run, of any length and at any times, leads away from the primary. -/
def CanLeave (config : Config.Failover) : Prop :=
  ∃ operations : List (Instant × Operation),
    (∀ entry ∈ operations, entry.2.isUndirected = true) ∧
      (run config (.initial config) operations).1.currentRegion config ≠
        config.primaryRegion

/-- There are backups, and all of them are the primary. -/
def BacksItself (config : Config.Failover) : Prop :=
  config.backupRegions ≠ [] ∧
    ∀ backup ∈ config.backupRegions, backup = config.primaryRegion

instance : DecidablePred BacksItself :=
  fun _ => inferInstanceAs (Decidable (_ ∧ _))

theorem misconfiguration?_isSome_iff (config : Config.Failover) :
    config.misconfiguration?.isSome = true ↔
      config.enabled = true ∧ config.backupRegions = [] := by
  unfold Config.Failover.misconfiguration?
  cases config.enabled <;> cases config.backupRegions <;> simp

/-! ## Nowhere to go -/

theorem staysConfigured_of_isUndirected {config : Config.Failover}
    {operation : Operation} (hundirected : operation.isUndirected = true) :
    operation.StaysConfigured config := by
  rintro region rfl
  simp [Operation.isUndirected] at hundirected

/-- Without another region even requests by name end on the primary. -/
theorem currentRegion_of_alone {config : Config.Failover}
    (hthreshold : 1 ≤ config.failureThreshold)
    (halone : ∀ backup ∈ config.backupRegions, backup = config.primaryRegion)
    {operations : List (Instant × Operation)}
    (hown : ∀ entry ∈ operations, entry.2.StaysConfigured config) :
    (run config (.initial config) operations).1.currentRegion config =
      config.primaryRegion := by
  have hsteady : Steady config (run config (.initial config) operations).1 :=
    (steady_initial hthreshold).run hown
  unfold State.currentRegion
  split
  next =>
    rcases hsteady.region with hprimary | hbackup
    · exact hprimary
    · exact halone _ hbackup
  next => rfl

/-! ## Two ways to go -/

/-- The state after so many failures at one time, all of them counted. -/
def failedAt (config : Config.Failover) (now : Instant) (count : Nat) : State :=
  ⟨config.primaryRegion, count, if count = 0 then none else some now⟩

section Enabled

variable {config : Config.Failover} (hon : config.enabled = true)
variable (hbackup : ∃ backup ∈ config.backupRegions, backup ≠ config.primaryRegion)
include hon

theorem currentRegion_enabled (state : State) :
    state.currentRegion config = state.activeRegion := by
  simp [State.currentRegion, hon]

include hbackup in
theorem isFirstBackup_of_trigger (now : Instant) :
    IsFirstBackup config
      ((run config (.initial config) [(now, .trigger)]).1.currentRegion config) := by
  have hsome : (escape? config (.initial config)).isSome = true :=
    (escape?_isSome_iff config _).mpr ⟨rfl, hbackup⟩
  obtain ⟨target, htarget⟩ := Option.isSome_iff_exists.mp hsome
  have hfirst : firstBackup? config config.primaryRegion = some target := by
    simpa [escape?, State.initial] using htarget
  have hstate : (run config (.initial config) [(now, .trigger)]).1.activeRegion =
      target := by
    change ((Operation.trigger.apply config now (.initial config)).state).activeRegion = _
    rw [state_apply hon]
    simp [Operation.change, Change.ofTrigger, State.initial, hfirst, Change.result]
  rw [currentRegion_enabled hon, hstate]
  exact isFirstBackup_of_escape? htarget

omit hon in
theorem reached_failedAt (config : Config.Failover) (now : Instant) (count : Nat) :
    reached config (failedAt config now count) now = count + 1 := by
  refine reached_near ((windowExpired_eq_false_iff config _ now).mpr ?_)
  intro last hlast
  obtain ⟨-, rfl⟩ : ¬ count = 0 ∧ now = last := by simpa [failedAt] using hlast
  exact Nat.le_add_right _ _

/-- Failures at one time are all counted, as long as the threshold is not reached. -/
theorem run_failures (now : Instant) (cause : Cause) {count : Nat}
    (hcount : count < config.failureThreshold) :
    (run config (.initial config) (List.replicate count (now, .fail cause))).1 =
      failedAt config now count := by
  induction count with
  | zero => rfl
  | succ count ih =>
      have hreached := reached_failedAt config now count
      rw [List.replicate_succ', run_append, ih (by omega)]
      change ((Operation.fail cause).apply config now _).state = _
      rw [state_apply hon]
      change (afterFailure config (failedAt config now count) now).1 = _
      rw [afterFailure_below (by rwa [hreached]), hreached]
      simp [failedAt]

include hbackup in
theorem isFirstBackup_of_failures (hthreshold : 1 ≤ config.failureThreshold)
    (now : Instant) (cause : Cause) :
    IsFirstBackup config
      ((run config (.initial config)
        (List.replicate config.failureThreshold (now, .fail cause))).1.currentRegion
          config) := by
  obtain ⟨count, hcount⟩ := Nat.exists_eq_add_of_le' hthreshold
  have hfull : config.failureThreshold ≤ reached config (failedAt config now count) now := by
    rw [reached_failedAt, hcount]
  have hsome : (escape? config (failedAt config now count)).isSome = true :=
    (escape?_isSome_iff config _).mpr ⟨rfl, hbackup⟩
  obtain ⟨target, htarget⟩ := Option.isSome_iff_exists.mp hsome
  rw [currentRegion_enabled hon, hcount, List.replicate_succ', run_append,
    run_failures hon now cause (by omega)]
  change IsFirstBackup config
    ((Operation.fail cause).apply config now _).state.activeRegion
  rw [state_apply hon]
  change IsFirstBackup config (afterFailure config _ now).1.activeRegion
  rw [afterFailure_full hfull, htarget]
  exact isFirstBackup_of_escape? htarget

end Enabled

/-! ## The warning -/

theorem canLeave_iff {config : Config.Failover}
    (hthreshold : 1 ≤ config.failureThreshold) :
    CanLeave config ↔
      config.enabled = true ∧
        ∃ backup ∈ config.backupRegions, backup ≠ config.primaryRegion := by
  constructor
  · rintro ⟨operations, hundirected, hleft⟩
    refine ⟨?_, ?_⟩
    · by_contra hoff
      exact hleft (by simp [State.currentRegion, hoff])
    · by_contra halone
      refine hleft (currentRegion_of_alone hthreshold (by simpa using halone) ?_)
      exact fun entry hentry => staysConfigured_of_isUndirected (hundirected entry hentry)
  · rintro ⟨hon, hbackup⟩
    obtain ⟨-, -, -, hother, -⟩ := isFirstBackup_of_trigger hon hbackup .start
    exact ⟨[(.start, .trigger)], by simp [Operation.isUndirected], hother⟩

/-- The warning says that failover is enabled and never leaves the primary, unless
the primary stands in for its own backups.  A configuration that is warned of has
no run to another region, not even by name; one with another region has it one
request, and one threshold of failures, away. -/
theorem warned_unless_backing_itself (config : Config.Failover)
    (hthreshold : 1 ≤ config.failureThreshold) :
    ((config.misconfiguration?.isSome = true ↔
        config.enabled = true ∧ ¬ CanLeave config) ↔
      ¬ (config.enabled = true ∧ BacksItself config)) ∧
    (config.misconfiguration?.isSome = true →
      config.enabled = true ∧
      ∀ operations : List (Instant × Operation),
        (∀ entry ∈ operations, entry.2.StaysConfigured config) →
          (run config (.initial config) operations).1.currentRegion config =
            config.primaryRegion) ∧
    (CanLeave config ↔
      config.enabled = true ∧
        ∃ backup ∈ config.backupRegions, backup ≠ config.primaryRegion) ∧
    (CanLeave config → ∀ (now : Instant) (cause : Cause),
      IsFirstBackup config
        ((run config (.initial config) [(now, .trigger)]).1.currentRegion config) ∧
      IsFirstBackup config
        ((run config (.initial config)
          (List.replicate config.failureThreshold (now, .fail cause))).1.currentRegion
            config)) := by
  have hleave := canLeave_iff hthreshold
  refine ⟨?_, ?_, hleave, ?_⟩
  · rw [misconfiguration?_isSome_iff, hleave, BacksItself]
    by_cases hon : config.enabled = true
    · cases hbackups : config.backupRegions with
      | nil => simp [hon]
      | cons backup backups => simp [hon, Classical.or_iff_not_imp_left]
    · simp [hon]
  · intro hwarned
    obtain ⟨hon, hnone⟩ := (misconfiguration?_isSome_iff config).mp hwarned
    refine ⟨hon, fun operations hown => ?_⟩
    exact currentRegion_of_alone hthreshold (by simp [hnone]) hown
  · intro hcan now cause
    obtain ⟨hon, hbackup⟩ := hleave.mp hcan
    exact ⟨isFirstBackup_of_trigger hon hbackup now,
      isFirstBackup_of_failures hon hbackup hthreshold now cause⟩

theorem unwarned_drill_can_leave :
    1 ≤ drill.failureThreshold ∧ ¬ (drill.enabled = true ∧ BacksItself drill) ∧
      drill.misconfiguration? = none ∧ CanLeave drill ∧
      IsFirstBackup drill
        ((run drill (.initial drill)
          (List.replicate 3 (secondsIn 5, .fail .timeout))).1.currentRegion drill) := by
  obtain ⟨-, -, hleave, hways⟩ := warned_unless_backing_itself drill (by decide)
  have hcan : CanLeave drill := hleave.mpr ⟨rfl, "us-west", by decide, by decide⟩
  exact ⟨by decide, by decide, rfl, hcan, (hways hcan (secondsIn 5) .timeout).2⟩

/-- The primary is its only backup. -/
def selfBacked : Config.Failover where
  enabled := true
  primaryRegion := "us-east"
  backupRegions := ["us-east"]

theorem self_backed_goes_unwarned :
    1 ≤ selfBacked.failureThreshold ∧
      ¬ (selfBacked.misconfiguration?.isSome = true ↔
        selfBacked.enabled = true ∧ ¬ CanLeave selfBacked) := by
  have hstays : ¬ CanLeave selfBacked := by
    rw [canLeave_iff (by decide)]
    decide
  refine ⟨by decide, fun hexact => ?_⟩
  exact absurd (hexact.mpr ⟨rfl, hstays⟩) (by decide)

end EdgeGateway.Failover
