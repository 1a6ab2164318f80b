import EdgeGateway.Proofs.Failover.Streak

/-!
# A region that stays

Whatever happens, the active region is one of those configured, and fewer
failures are counted than the threshold allows.  As long as nobody says which
region is to be active, failover goes one way and once: from the primary to the
first backup, where it stays.  While failover is disabled nothing happens at all.
-/

namespace EdgeGateway.Failover

def IsConfigured (config : Config.Failover) (region : String) : Prop :=
  region = config.primaryRegion ∨ region ∈ config.backupRegions

namespace Operation

/-- A move by name goes to a region that is configured. -/
def StaysConfigured (config : Config.Failover) (operation : Operation) : Prop :=
  ∀ region, operation = .moveTo region → IsConfigured config region

/-- Whether an operator says which region is to be active. -/
def namesRegion (config : Config.Failover) : Operation → Bool
  | moveTo _ | restore => true
  | operate argument =>
      match Request.ofArgument config argument with
      | .restore | .region _ => true
      | .failover | .unknown _ => false
  | _ => false

end Operation

/-! ## Where operations move to -/

theorem isConfigured_of_isFirstBackup {config : Config.Failover} {region : String}
    (hfirst : IsFirstBackup config region) : IsConfigured config region := by
  obtain ⟨earlier, later, hbackups, -, -⟩ := hfirst
  exact Or.inr (by simp [hbackups])

/-- A trigger does nothing, or the primary gives way to the first backup. -/
theorem ofTrigger_cases (config : Config.Failover) (state : State) :
    Change.ofTrigger config state = .nothing ∨
      ∃ target, Change.ofTrigger config state = .move target ∧
        state.activeRegion = config.primaryRegion ∧ IsFirstBackup config target := by
  by_cases hprimary : state.activeRegion = config.primaryRegion
  · cases hbackup : firstBackup? config config.primaryRegion with
    | none => exact Or.inl (by simp [Change.ofTrigger, hprimary, hbackup])
    | some target =>
        have hescape : escape? config state = some target := by
          simp [escape?, hprimary, hbackup]
        exact Or.inr ⟨target, by simp [Change.ofTrigger, hprimary, hbackup],
          hprimary, isFirstBackup_of_escape? hescape⟩
  · exact Or.inl (by simp [Change.ofTrigger, hprimary])

theorem mem_backupRegions_of_request {config : Config.Failover}
    {argument : Option String} {name : String}
    (hrequest : Request.ofArgument config argument = .region name) :
    name ∈ config.backupRegions := by
  cases argument with
  | none => simp [Request.ofArgument] at hrequest
  | some text =>
      simp only [Request.ofArgument] at hrequest
      split at hrequest
      next => simp at hrequest
      next =>
        split at hrequest
        next hbackup =>
          obtain rfl := Request.region.inj hrequest
          simpa using hbackup
        next => simp at hrequest

theorem eq_of_ofMove {region target : String} {state : State}
    (hmove : Change.ofMove region state = .move target) : region = target := by
  unfold Change.ofMove at hmove
  split at hmove
  next => simp at hmove
  next => exact Change.move.inj hmove

/-- Whoever moves the active region moves it to one that is configured. -/
theorem isConfigured_of_move {config : Config.Failover} {state : State}
    {operation : Operation} {target : String}
    (hmove : operation.change config state = .move target)
    (hown : operation.StaysConfigured config) : IsConfigured config target := by
  have htrigger : Change.ofTrigger config state = .move target →
      IsConfigured config target := by
    intro hmove
    rcases ofTrigger_cases config state with hnothing | ⟨backup, hbackup, -, hfirst⟩
    · simp [hnothing] at hmove
    · obtain rfl := Change.move.inj (hbackup.symm.trans hmove)
      exact isConfigured_of_isFirstBackup hfirst
  cases operation with
  | fail cause => simp [Operation.change] at hmove
  | observe outcome =>
      simp only [Operation.change] at hmove
      split at hmove <;> simp at hmove
  | reset => simp [Operation.change] at hmove
  | trigger => exact htrigger hmove
  | moveTo region =>
      obtain rfl := eq_of_ofMove hmove
      exact hown region rfl
  | restore => simp [Operation.change] at hmove
  | operate argument =>
      simp only [Operation.change] at hmove
      split at hmove
      next => exact htrigger hmove
      next => simp at hmove
      next name hrequest =>
        obtain rfl := eq_of_ofMove hmove
        exact Or.inr (mem_backupRegions_of_request hrequest)
      next => simp at hmove

/-- Without a name there are failures, resets and triggers. -/
theorem change_of_unnamed {config : Config.Failover} (state : State)
    {operation : Operation} (hunnamed : operation.namesRegion config = false) :
    operation.change config state = .failure ∨
      operation.change config state = .reset ∨
      operation.change config state = .nothing ∨
      operation.change config state = .ofTrigger config state := by
  cases operation with
  | fail cause => exact Or.inl rfl
  | observe outcome =>
      cases hcause : outcome.cause? <;> simp [Operation.change, hcause]
  | reset => exact Or.inr (Or.inl rfl)
  | trigger => exact Or.inr (Or.inr (Or.inr rfl))
  | moveTo region => simp [Operation.namesRegion] at hunnamed
  | restore => simp [Operation.namesRegion] at hunnamed
  | operate argument =>
      cases hrequest : Request.ofArgument config argument <;>
        simp_all [Operation.namesRegion, Operation.change]

/-- A failure keeps the active region or leaves the primary for the first
backup. -/
theorem region_afterFailure (config : Config.Failover) (state : State)
    (now : Instant) :
    (afterFailure config state now).1.activeRegion = state.activeRegion ∨
      (state.activeRegion = config.primaryRegion ∧
        IsFirstBackup config (afterFailure config state now).1.activeRegion) := by
  rw [activeRegion_afterFailure]
  split
  next =>
    cases htarget : escape? config state with
    | none => exact Or.inl rfl
    | some target =>
        have hprimary := ((escape?_isSome_iff config state).mp (by simp [htarget])).1
        exact Or.inr ⟨hprimary, isFirstBackup_of_escape? htarget⟩
  next => exact Or.inl rfl

/-! ## Disabled failover -/

section Disabled

variable {config : Config.Failover} (hoff : config.enabled = false)
include hoff

theorem apply_of_disabled (now : Instant) (state : State) (operation : Operation) :
    (operation.apply config now state).state = state ∧
      (operation.apply config now state).counted = [] ∧
      ∀ region, (operation.apply config now state).reply = .region region →
        region = config.primaryRegion := by
  have hstep : ∀ region, (disabledStep config state).applied.reply = .region region →
      region = config.primaryRegion := by
    intro region hreply
    exact (Reply.region.inj hreply).symm
  cases operation with
  | observe outcome =>
      cases hcause : outcome.cause? <;>
        simp [Operation.apply, Failover.observe, hcause, recordFailure,
          resetFailures, disabledStep, hoff]
  | reset => simp [Operation.apply, resetFailures, hoff]
  | operate argument => simp [Operation.apply, operate, hoff]
  | _ =>
      simp only [Operation.apply, recordFailure, triggerFailover, failoverTo,
        restorePrimary, hoff, Bool.not_false, if_true]
      exact ⟨rfl, rfl, hstep⟩

theorem run_of_disabled (state : State) (operations : List (Instant × Operation)) :
    (run config state operations).1 = state := by
  induction operations with
  | nil => rfl
  | cons first operations ih =>
      obtain ⟨now, operation⟩ := first
      simp only [run, (apply_of_disabled hoff now state operation).1, ih]

end Disabled

/-! ## Every state -/

/-- What no operation breaks. -/
structure Steady (config : Config.Failover) (state : State) : Prop where
  region : IsConfigured config state.activeRegion
  count : state.failureCount < config.failureThreshold

theorem steady_initial {config : Config.Failover}
    (hthreshold : 1 ≤ config.failureThreshold) :
    Steady config (.initial config) :=
  ⟨Or.inl rfl, hthreshold⟩

theorem Steady.reached_le {config : Config.Failover} {state : State}
    (hsteady : Steady config state) (now : Instant) :
    reached config state now ≤ config.failureThreshold :=
  (Failover.reached_le config state now).trans hsteady.count

theorem Steady.afterFailure {config : Config.Failover} {state : State}
    (hsteady : Steady config state) (now : Instant) :
    Steady config (afterFailure config state now).1 := by
  constructor
  · rcases region_afterFailure config state now with hsame | ⟨-, hfirst⟩
    · rw [hsame]
      exact hsteady.region
    · exact isConfigured_of_isFirstBackup hfirst
  · rw [failureCount_afterFailure now hsteady.count]
    exact Nat.mod_lt _ (Nat.zero_lt_of_lt hsteady.count)

theorem Steady.apply {config : Config.Failover} {state : State}
    (hsteady : Steady config state) (now : Instant) {operation : Operation}
    (hown : operation.StaysConfigured config) :
    Steady config (operation.apply config now state).state := by
  have hpositive : 0 < config.failureThreshold :=
    Nat.zero_lt_of_lt hsteady.count
  cases hon : config.enabled with
  | false =>
      rw [(apply_of_disabled hon now state operation).1]
      exact hsteady
  | true =>
      rw [state_apply hon]
      cases hchange : operation.change config state with
      | failure => exact hsteady.afterFailure now
      | reset => exact ⟨hsteady.region, hpositive⟩
      | move target => exact ⟨isConfigured_of_move hchange hown, hpositive⟩
      | restore => exact ⟨Or.inl rfl, hpositive⟩
      | nothing => exact hsteady

theorem Steady.run {config : Config.Failover} {state : State}
    (hsteady : Steady config state) {operations : List (Instant × Operation)}
    (hown : ∀ entry ∈ operations, entry.2.StaysConfigured config) :
    Steady config (run config state operations).1 := by
  induction operations generalizing state with
  | nil => exact hsteady
  | cons first operations ih =>
      obtain ⟨now, operation⟩ := first
      obtain ⟨hfirst, hrest⟩ := List.forall_mem_cons.mp hown
      exact ih (hsteady.apply now hfirst) hrest

/-! ## One way and once -/

/-- Unless a region is named, the active region stays or gives way as the
primary to the first backup. -/
theorem region_apply {config : Config.Failover} (now : Instant) (state : State)
    {operation : Operation} (hunnamed : operation.namesRegion config = false) :
    (operation.apply config now state).state.activeRegion = state.activeRegion ∨
      (state.activeRegion = config.primaryRegion ∧
        IsFirstBackup config
          (operation.apply config now state).state.activeRegion) := by
  cases hon : config.enabled with
  | false => exact Or.inl (by rw [(apply_of_disabled hon now state operation).1])
  | true =>
      rw [state_apply hon]
      rcases change_of_unnamed state hunnamed with
        hchange | hchange | hchange | hchange <;> rw [hchange]
      · exact region_afterFailure config state now
      · exact Or.inl rfl
      · exact Or.inl rfl
      · rcases ofTrigger_cases config state with
          hnothing | ⟨target, htarget, hprimary, hfirst⟩
        · exact Or.inl (by rw [hnothing]; rfl)
        · rw [htarget]
          exact Or.inr ⟨hprimary, hfirst⟩

/-- The regions that are active after the operations of a run. -/
def regions (config : Config.Failover) (state : State)
    (operations : List (Instant × Operation)) : List String :=
  (history config state operations).map fun entry => entry.after.activeRegion

/-- The active region is the same for some time and another one ever after. -/
def MovesOnce (config : Config.Failover) (active : String)
    (regions : List String) : Prop :=
  ∃ stayed moved backup,
    regions = List.replicate stayed active ++ List.replicate moved backup ∧
      (moved ≠ 0 → active = config.primaryRegion ∧ IsFirstBackup config backup)

theorem movesOnce_regions {config : Config.Failover} (state : State)
    {operations : List (Instant × Operation)}
    (hunnamed : ∀ entry ∈ operations, entry.2.namesRegion config = false) :
    MovesOnce config state.activeRegion (regions config state operations) := by
  induction operations generalizing state with
  | nil => exact ⟨0, 0, state.activeRegion, rfl, by simp⟩
  | cons first operations ih =>
      obtain ⟨now, operation⟩ := first
      obtain ⟨hfirst, hrest⟩ := List.forall_mem_cons.mp hunnamed
      let next := (operation.apply config now state).state
      obtain ⟨stayed, moved, backup, hregions, hmoved⟩ := ih next hrest
      have hcons : regions config state ((now, operation) :: operations) =
          next.activeRegion :: regions config next operations := rfl
      rcases region_apply now state hfirst with hsame | ⟨hprimary, hbackup⟩
      · refine ⟨stayed + 1, moved, backup, ?_, hsame ▸ hmoved⟩
        rw [hcons, hregions, List.replicate_succ, List.cons_append, hsame]
      · have hother : next.activeRegion ≠ config.primaryRegion := by
          obtain ⟨-, -, -, hother, -⟩ := hbackup
          exact hother
        obtain rfl : moved = 0 := by
          by_contra hmoves
          exact hother (hmoved hmoves).1
        refine ⟨0, stayed + 1, next.activeRegion, ?_, fun _ => ⟨hprimary, hbackup⟩⟩
        rw [hcons, hregions]
        simp [List.replicate_succ]

/-- After any run the active region is configured, the next failure counts no
further than the threshold, and without failover the state is the first one and
the primary is what everybody is told.  From there on, as long as nobody names a
region, the active region moves at most once, from the primary to the first
backup. -/
theorem active_region_sticks (config : Config.Failover)
    (hthreshold : 1 ≤ config.failureThreshold)
    (operations : List (Instant × Operation))
    (hown : ∀ entry ∈ operations, entry.2.StaysConfigured config) :
    let state := (run config (.initial config) operations).1
    IsConfigured config state.activeRegion ∧
    state.failureCount < config.failureThreshold ∧
    (∀ now, reached config state now ≤ config.failureThreshold) ∧
    (config.enabled = false →
      state = .initial config ∧
      state.currentRegion config = config.primaryRegion ∧
      ∀ (now : Instant) (operation : Operation) (region : String),
        (operation.apply config now state).reply = .region region →
          region = config.primaryRegion) ∧
    ∀ later : List (Instant × Operation),
      (∀ entry ∈ later, entry.2.namesRegion config = false) →
        MovesOnce config state.activeRegion (regions config state later) := by
  intro state
  have hsteady : Steady config state := (steady_initial hthreshold).run hown
  refine ⟨hsteady.region, hsteady.count, hsteady.reached_le, ?_,
    fun later => movesOnce_regions state⟩
  intro hoff
  refine ⟨run_of_disabled hoff _ operations, by simp [State.currentRegion, hoff], ?_⟩
  exact fun now operation => (apply_of_disabled hoff now state operation).2.2

/-- An operator's drill and its end, and two failures after that. -/
def drillAndFailures : List (Instant × Operation) :=
  [(secondsIn 0, .operate (some "eu-central")), (secondsIn 1, .operate (some " ")),
    (secondsIn 2, .fail .timeout), (secondsIn 3, .fail .timeout)]

/-- One failure more, and requests that name no region. -/
def outage : List (Instant × Operation) :=
  [(secondsIn 4, .fail .timeout), (secondsIn 5, .trigger),
    (secondsIn 6, .operate none)]

theorem outage_ends_on_first_backup :
    let state := (run drill (.initial drill) drillAndFailures).1
    1 ≤ drill.failureThreshold ∧
      (∀ entry ∈ drillAndFailures, entry.2.StaysConfigured drill) ∧
      (∀ entry ∈ outage, entry.2.namesRegion drill = false) ∧
      state.failureCount < drill.failureThreshold ∧
      MovesOnce drill "us-east" (regions drill state outage) ∧
      regions drill state outage = ["us-west", "us-west", "us-west"] := by
  have hown : ∀ entry ∈ drillAndFailures, entry.2.StaysConfigured drill := by
    simp [drillAndFailures, Operation.StaysConfigured]
  obtain ⟨-, hcount, -, -, hsticks⟩ :=
    active_region_sticks drill (by decide) drillAndFailures hown
  exact ⟨by decide, hown, by decide, hcount, hsticks _ (by decide), by decide⟩

end EdgeGateway.Failover
