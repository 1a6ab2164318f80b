import EdgeGateway.Proofs.Failover.Naming

/-!
# What operators are answered

While failover is disabled an operator is refused everything, and otherwise only
a name that belongs to no region.  A refusal leaves the state as it was.  Whoever
is not refused is told the region that is active from then on.  All requests have
in common that they ask for a region and not for a change: the region that they
lead to answers the same request once more, so repeating one changes nothing.
-/

namespace EdgeGateway.Failover

/-- Whether an operator names something that is no region. -/
def NamesNoRegion (config : Config.Failover) (argument : Option String) : Prop :=
  ∃ text, argument = some text ∧ meansPrimary (Text.trim text) = false ∧
    ¬ IsConfigured config (Text.trim text)

/-- A change that reports the region it leaves active and, made once more, changes
and counts nothing. -/
structure Settles (change : State → Step) : Prop where
  region : ∀ state, (change state).state.activeRegion = (change state).region
  again : ∀ state,
    change (change state).state = ⟨(change state).state, (change state).region, []⟩

section Enabled

variable {config : Config.Failover} (hon : config.enabled = true)
include hon

theorem triggerFailover_of_backup {state : State}
    (hbackup : state.activeRegion ≠ config.primaryRegion) :
    triggerFailover config state = ⟨state, state.activeRegion, []⟩ := by
  simp [triggerFailover, hon, hbackup]

/-- A backup that is active already, or the lack of one, ends the matter. -/
theorem settles_triggerFailover : Settles (triggerFailover config) := by
  have hcases : ∀ state,
      triggerFailover config state = ⟨state, state.activeRegion, []⟩ ∨
        ∃ target, target ≠ config.primaryRegion ∧
          triggerFailover config state = transition state target := by
    intro state
    by_cases hprimary : state.activeRegion = config.primaryRegion
    · cases hbackup : firstBackup? config state.activeRegion with
      | none =>
          left
          simp [triggerFailover, hon, hprimary, hprimary ▸ hbackup]
      | some target =>
          right
          have hother : target ≠ config.primaryRegion := by
            simpa [hprimary] using List.find?_some hbackup
          refine ⟨target, hother, ?_⟩
          simp [triggerFailover, hon, hprimary, hprimary ▸ hbackup]
    · exact Or.inl (triggerFailover_of_backup hon hprimary)
  constructor
  · intro state
    rcases hcases state with hsame | ⟨target, -, hmoved⟩
    · rw [hsame]
    · rw [hmoved]
      rfl
  · intro state
    rcases hcases state with hsame | ⟨target, hother, hmoved⟩
    · rw [hsame]
      exact hsame
    · rw [hmoved]
      exact triggerFailover_of_backup hon hother

theorem settles_failoverTo (region : String) :
    Settles (failoverTo config region) := by
  have hactive : ∀ state,
      (failoverTo config region state).state.activeRegion = region ∧
        (failoverTo config region state).region = region := by
    intro state
    by_cases hsame : state.activeRegion = region <;>
      simp [failoverTo, transition, hon, hsame]
  constructor
  · intro state
    rw [(hactive state).1, (hactive state).2]
  · intro state
    obtain ⟨hstate, hregion⟩ := hactive state
    rw [failoverTo, hon, if_neg (by simp), if_pos hstate, hstate, hregion]

theorem settles_restorePrimary : Settles (restorePrimary config) := by
  constructor <;> intro state <;> simp [restorePrimary, hon]

end Enabled

/-! ## Refusals -/

theorem namesNoRegion_iff {config : Config.Failover} {argument : Option String} :
    NamesNoRegion config argument ↔
      ∃ name, Request.ofArgument config argument = .unknown name := by
  cases argument with
  | none => simp [NamesNoRegion, Request.ofArgument]
  | some text =>
      simp only [NamesNoRegion, Option.some.injEq, exists_eq_left', meansPrimary,
        IsConfigured, Request.ofArgument]
      split
      next hprimary =>
        simp only [reduceCtorEq, exists_false, iff_false]
        grind
      next hother =>
        split
        next hbackup =>
          simp only [reduceCtorEq, exists_false, iff_false]
          simp_all
        next hunknown => simp_all

section Enabled

variable {config : Config.Failover} (hon : config.enabled = true)
include hon

/-- What names no region is refused in every state. -/
theorem operate_of_namesNoRegion {argument : Option String}
    (hnames : NamesNoRegion config argument) :
    ∃ reason, ∀ state,
      operate config argument state = .error (.invalidRequest "region" reason) := by
  obtain ⟨name, hrequest⟩ := namesNoRegion_iff.mp hnames
  refine ⟨s!"'{name}' is not a configured region", ?_⟩
  intro state
  simp [operate, hon, hrequest]

/-- Every other request is for one change in every state, and that change settles. -/
theorem operate_of_region {argument : Option String}
    (hnames : ¬ NamesNoRegion config argument) :
    ∃ change, Settles change ∧
      ∀ state, operate config argument state = .ok (change state) := by
  cases hrequest : Request.ofArgument config argument with
  | failover =>
      refine ⟨triggerFailover config, settles_triggerFailover hon, ?_⟩
      intro state
      simp [operate, hon, hrequest]
  | restore =>
      refine ⟨restorePrimary config, settles_restorePrimary hon, ?_⟩
      intro state
      simp [operate, hon, hrequest]
  | region name =>
      refine ⟨failoverTo config name, settles_failoverTo hon name, ?_⟩
      intro state
      simp [operate, hon, hrequest]
  | unknown name => exact absurd (namesNoRegion_iff.mpr ⟨name, hrequest⟩) hnames

end Enabled

theorem apply_operate_of_error {config : Config.Failover} {argument : Option String}
    {error : GatewayError}
    (hrefused : ∀ state, operate config argument state = .error error)
    (now : Instant) (state : State) :
    (Operation.operate argument).apply config now state =
      ⟨state, .refused error, []⟩ := by
  simp only [Operation.apply, hrefused]

theorem apply_operate_of_ok {config : Config.Failover} {argument : Option String}
    {change : State → Step}
    (hgranted : ∀ state, operate config argument state = .ok (change state))
    (now : Instant) (state : State) :
    (Operation.operate argument).apply config now state = (change state).applied := by
  simp only [Operation.apply, hgranted]

/-- Whatever the state, a refusal leaves it as it is: without failover everything is
refused for that reason, and otherwise what names no region is an invalid request.
Whoever is not refused is told the region that is active from then on.  The same
request once more changes and counts nothing and is answered alike. -/
theorem operators_answered (config : Config.Failover) (argument : Option String)
    (state : State) (now later : Instant) :
    let once := (Operation.operate argument).apply config now state
    let again := (Operation.operate argument).apply config later once.state
    (∀ error, once.reply = .refused error → once.state = state ∧ once.counted = []) ∧
    ((∃ reason, once.reply = .refused (.preconditionFailed reason)) ↔
      config.enabled = false) ∧
    ((∃ reason, once.reply = .refused (.invalidRequest "region" reason)) ↔
      config.enabled = true ∧ NamesNoRegion config argument) ∧
    ((∃ region, once.reply = .region region ∧ once.state.activeRegion = region) ↔
      config.enabled = true ∧ ¬ NamesNoRegion config argument) ∧
    again = ⟨once.state, once.reply, []⟩ := by
  intro once again
  cases hon : config.enabled with
  | false =>
      have hrefused : ∀ state, operate config argument state =
          .error (.preconditionFailed "region failover is disabled") := by
        intro state
        simp [operate, hon]
      have honce := apply_operate_of_error hrefused now state
      have hagain := apply_operate_of_error hrefused later once.state
      simp_all [once, again]
  | true =>
      by_cases hnames : NamesNoRegion config argument
      · obtain ⟨reason, hrefused⟩ := operate_of_namesNoRegion hon hnames
        have honce := apply_operate_of_error hrefused now state
        have hagain := apply_operate_of_error hrefused later once.state
        simp_all [once, again]
      · obtain ⟨change, hsettles, hgranted⟩ := operate_of_region hon hnames
        have honce := apply_operate_of_ok hgranted now state
        have hagain := apply_operate_of_ok hgranted later once.state
        have hregion := hsettles.region state
        have hsame := hsettles.again state
        simp_all [once, again, Step.applied]

theorem drill_requests_answered :
    let now := secondsIn 7
    let start := State.initial drill
    let once := (Operation.operate none).apply drill now start
    NamesNoRegion drill (some " mars-1 ") ∧
      ((Operation.operate (some " mars-1 ")).apply drill now start).state = start ∧
      (∃ reason, ((Operation.operate (some " mars-1 ")).apply drill now start).reply =
        .refused (.invalidRequest "region" reason)) ∧
      ¬ NamesNoRegion drill none ∧
      once.reply = .region "us-west" ∧
      (Operation.operate none).apply drill now once.state =
        ⟨once.state, .region "us-west", []⟩ := by
  intro now start once
  have hunknown : NamesNoRegion drill (some " mars-1 ") :=
    namesNoRegion_iff.mpr ⟨"mars-1", by decide +kernel⟩
  have hunnamed : ¬ NamesNoRegion drill none := by simp [NamesNoRegion]
  obtain ⟨hsame, -, hinvalid, -, -⟩ :=
    operators_answered drill (some " mars-1 ") start now now
  obtain ⟨-, -, -, -, hagain⟩ := operators_answered drill none start now now
  obtain ⟨reason, hrefused⟩ := hinvalid.mpr ⟨rfl, hunknown⟩
  exact ⟨hunknown, (hsame _ hrefused).1, ⟨reason, hrefused⟩, hunnamed, rfl, hagain⟩

end EdgeGateway.Failover
