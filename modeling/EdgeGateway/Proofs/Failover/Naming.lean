import EdgeGateway.Proofs.Config.Valid
import EdgeGateway.Proofs.Failover.Stickiness

/-!
# Regions by name

An operator makes a region active by its name.  A name is read without the blanks
around it, and two of them mean the primary region, whatever that is called: the
empty one, and the word `primary` in any case.  So a region can be named if it is
written without blanks around it and is not called by one of these two, unless
it is the primary itself.

Only the name of the primary is looked at when a configuration is accepted.  A
backup may have a name that nobody can use, and even a blank one, which becomes
active like any other when the primary fails.
-/

namespace EdgeGateway.Failover

/-- Whether a trimmed name means the primary, whatever that is called. -/
def meansPrimary (name : String) : Bool :=
  name = "" || Text.equalIgnoringCase name "primary"

/-- Whether a region is written in a way that an operator can name it. -/
structure Nameable (config : Config.Failover) (region : String) : Prop where
  trimmed : Text.trim region = region
  own : meansPrimary region = true → region = config.primaryRegion

/-- Whether a request of an operator succeeds, reports a region and leaves it
active. -/
def Activates (config : Config.Failover) (argument : Option String)
    (state : State) (region : String) : Prop :=
  ∃ step, operate config argument state = .ok step ∧ step.region = region ∧
    step.state.activeRegion = region

/-! ## What a name asks for -/

theorem ofArgument_eq_restore {config : Config.Failover} {argument : String}
    (hprimary : meansPrimary (Text.trim argument) = true ∨
      Text.trim argument = config.primaryRegion) :
    Request.ofArgument config (some argument) = .restore := by
  apply if_pos
  simpa [meansPrimary, or_assoc] using hprimary

theorem ofArgument_eq_region {config : Config.Failover} {region : String}
    (htrimmed : Text.trim region = region) (hother : meansPrimary region = false)
    (hbackup : region ∈ config.backupRegions)
    (hprimary : region ≠ config.primaryRegion) :
    Request.ofArgument config (some region) = .region region := by
  have hnamed : ¬ (region = "" ∨ Text.equalIgnoringCase region "primary" = true ∨
      region = config.primaryRegion) := by
    simpa [meansPrimary, hprimary] using hother
  have hcontains : config.backupRegions.contains region = true :=
    List.contains_iff_mem.mpr hbackup
  simp only [Request.ofArgument, htrimmed, if_neg hnamed, if_pos hcontains]

section Enabled

variable {config : Config.Failover} (hon : config.enabled = true)
include hon

theorem activates_restore {argument : Option String}
    (hrequest : Request.ofArgument config argument = .restore) (state : State) :
    Activates config argument state config.primaryRegion := by
  refine ⟨restorePrimary config state, ?_, ?_, ?_⟩
  · simp [operate, hon, hrequest]
  · simp [restorePrimary, hon]
  · rw [state_restorePrimary hon]

theorem activates_region {argument : Option String} {region : String}
    (hrequest : Request.ofArgument config argument = .region region)
    (state : State) : Activates config argument state region := by
  refine ⟨failoverTo config region state, ?_, ?_⟩
  · simp [operate, hon, hrequest]
  · by_cases hsame : state.activeRegion = region <;>
      simp [failoverTo, transition, hon, hsame]

/-- A configured region that can be named is made active by its name. -/
theorem Nameable.activates {region : String} (hnameable : Nameable config region)
    (hconfigured : IsConfigured config region) (state : State) :
    Activates config (some region) state region := by
  by_cases hprimary : region = config.primaryRegion
  · have hrestore : Request.ofArgument config (some region) = .restore := by
      apply ofArgument_eq_restore
      exact Or.inr (hnameable.trimmed.trans hprimary)
    rw [hprimary] at hrestore ⊢
    exact activates_restore hon hrestore state
  · have hother : meansPrimary region = false := by
      rw [Bool.eq_false_iff]
      intro hmeans
      exact hprimary (hnameable.own hmeans)
    have hbackup : region ∈ config.backupRegions :=
      hconfigured.resolve_left hprimary
    apply activates_region hon
    exact ofArgument_eq_region hnameable.trimmed hother hbackup hprimary

end Enabled

/-- In an accepted configuration a blank region is active only if it is a backup.
From whatever state, every configured region that can be named is made active by
its name, and the names that mean the primary restore it. -/
theorem regions_reached_by_name (config : Config.Gateway)
    (haccepted : config.validate = .ok ())
    (hon : config.failover.enabled = true)
    (operations : List (Instant × Operation))
    (hown : ∀ entry ∈ operations, entry.2.StaysConfigured config.failover) :
    let state := (run config.failover (.initial config.failover) operations).1
    IsConfigured config.failover state.activeRegion ∧
    (Text.isBlankText state.activeRegion = true →
      state.activeRegion ∈ config.failover.backupRegions) ∧
    (∀ region, IsConfigured config.failover region →
      Nameable config.failover region →
        Activates config.failover (some region) state region) ∧
    ∀ word, meansPrimary (Text.trim word) = true →
      Activates config.failover (some word) state config.failover.primaryRegion := by
  intro state
  have hsound := (Config.Gateway.validate_eq_ok_iff config).mp haccepted
  have hconfigured : IsConfigured config.failover state.activeRegion :=
    ((steady_initial hsound.failureThreshold).run hown).region
  refine ⟨hconfigured, ?_, ?_, ?_⟩
  · intro hblank
    apply hconfigured.resolve_left
    intro hprimary
    rw [hprimary, hsound.primaryRegion] at hblank
    exact Bool.false_ne_true hblank
  · intro region hregion hnameable
    exact hnameable.activates hon hregion state
  · intro word hword
    exact activates_restore hon (ofArgument_eq_restore (Or.inl hword)) state

def fleet : Config.Gateway :=
  { failover :=
      { enabled := true, primaryRegion := "eu-west",
        backupRegions := ["eu-central", "us-west"], failureThreshold := 1 } }

def fleetOutage : List (Instant × Operation) := [(secondsIn 0, .fail .timeout)]

theorem us_west_reached_by_name :
    let state := (run fleet.failover (.initial fleet.failover) fleetOutage).1
    fleet.validate = .ok () ∧ fleet.failover.enabled = true ∧
      (∀ entry ∈ fleetOutage, entry.2.StaysConfigured fleet.failover) ∧
      state.activeRegion = "eu-central" ∧
      Activates fleet.failover (some "us-west") state "us-west" ∧
      Activates fleet.failover (some " Primary ") state "eu-west" := by
  have haccepted : fleet.validate = .ok () := rfl
  have hown : ∀ entry ∈ fleetOutage, entry.2.StaysConfigured fleet.failover := by
    simp [fleetOutage, Operation.StaysConfigured]
  obtain ⟨-, -, hnamed, hwords⟩ :=
    regions_reached_by_name fleet haccepted rfl fleetOutage hown
  have hwest : Nameable fleet.failover "us-west" :=
    ⟨by decide +kernel, by decide +kernel⟩
  exact ⟨haccepted, rfl, hown, by decide, hnamed _ (Or.inr (by decide)) hwest,
    hwords " Primary " (by decide +kernel)⟩

/-- An accepted configuration none of whose regions can be named. -/
def looseFleet : Config.Gateway :=
  { failover :=
      { enabled := true, primaryRegion := " eu-west",
        backupRegions := ["", "Primary", "us-west "], failureThreshold := 1 } }

/-- The first failure makes a blank region active, and no region is made active
by its name. -/
theorem loose_regions_not_reached :
    let config := looseFleet.failover
    looseFleet.validate = .ok () ∧ config.enabled = true ∧
      Text.isBlankText (run config (.initial config) fleetOutage).1.activeRegion =
        true ∧
      ∀ region ∈ config.primaryRegion :: config.backupRegions,
        ¬ Activates config (some region) (.initial config) region := by
  have hactive : ∀ region ∈ looseFleet.failover.primaryRegion ::
      looseFleet.failover.backupRegions,
      (operate looseFleet.failover (some region)
        (.initial looseFleet.failover)).toOption.map Step.region ≠ some region := by
    decide +kernel
  refine ⟨rfl, rfl, by decide, ?_⟩
  rintro region hregion ⟨step, hoperate, hreported, -⟩
  apply hactive region hregion
  rw [hoperate, Except.toOption, Option.map_some, hreported]

end EdgeGateway.Failover
