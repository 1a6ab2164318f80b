import EdgeGateway.Proofs.Failover.Stickiness
import EdgeGateway.Proofs.Observe.Totals

/-!
# Moves and failures are counted

While failover is enabled an operation counts the failure that it reports, under its
cause, and then the move that it makes, under whoever makes it; what is counted over
a run is what its history shows.  So each counter has grown by the number of such
entries.  While failover is disabled nothing is counted.
-/

namespace EdgeGateway.Failover

open Observe (Counter FailoverTrigger increase increase_eq)

/-! ## What an entry of a history shows -/

/-- Who makes the move, if the operation makes one. -/
def Operation.mover? (config : Config.Failover) : Operation → Option FailoverTrigger
  | fail _ => some .automatic
  | observe outcome => outcome.cause?.map fun _ => .automatic
  | reset => none
  | trigger | moveTo _ => some .operator
  | restore => some .restore
  | operate argument =>
      match Request.ofArgument config argument with
      | .failover | .region _ => some .operator
      | .restore => some .restore
      | .unknown _ => none

namespace Entry

/-- Whether the active region is another one afterwards. -/
def moves (entry : Entry) : Bool :=
  entry.after.activeRegion ≠ entry.before.activeRegion

/-- Whether this mover has moved the active region. -/
def movedBy (config : Config.Failover) (trigger : FailoverTrigger) (entry : Entry) : Bool :=
  entry.moves && entry.operation.mover? config = some trigger

/-- Whether a failure is reported whose cause has this label. -/
def reports (label : String) (entry : Entry) : Bool :=
  entry.operation.cause?.map Cause.label = some label

/-- A failure is counted first, and then the move that it leads to. -/
def tally (config : Config.Failover) (entry : Entry) : List Counter :=
  (entry.operation.cause?.toList.map fun cause => .regionFailures cause.label) ++
    if entry.moves then (entry.operation.mover? config).toList.map .regionFailovers else []

end Entry

/-! ## What is counted -/

/-- What a step has to count if it may move the active region. -/
def Step.moveCounted (trigger : FailoverTrigger) (before : State) (step : Step) :
    List Counter :=
  if step.state.activeRegion ≠ before.activeRegion then [.regionFailovers trigger] else []

section Enabled

variable {config : Config.Failover} (hon : config.enabled = true)
include hon

theorem counted_recordFailure (now : Instant) (cause : Cause) (state : State) :
    (recordFailure config now cause state).counted =
      .regionFailures cause.label ::
        (recordFailure config now cause state).moveCounted .automatic state := by
  rw [Step.moveCounted, state_recordFailure hon]
  simp only [recordFailure, hon, Bool.not_true, Bool.false_eq_true, if_false]
  rcases Nat.lt_or_ge (reached config state now) config.failureThreshold with
    hbelow | hfull
  · rw [afterFailure_below hbelow]
    simp
  · rw [afterFailure_full hfull]
    cases htarget : escape? config state with
    | none => simp
    | some target => simp [escape?_ne htarget]

theorem counted_triggerFailover (state : State) :
    (triggerFailover config state).counted =
      (triggerFailover config state).moveCounted .operator state := by
  by_cases hprimary : state.activeRegion = config.primaryRegion
  · cases hbackup : firstBackup? config state.activeRegion with
    | none =>
        simp [triggerFailover, Step.moveCounted, hon, hprimary, hprimary ▸ hbackup]
    | some target =>
        have hother : target ≠ config.primaryRegion := by
          simpa [hprimary] using List.find?_some hbackup
        simp [triggerFailover, transition, Step.moveCounted, hon, hprimary,
          hprimary ▸ hbackup, hother]
  · simp [triggerFailover, Step.moveCounted, hon, hprimary]

theorem counted_failoverTo (region : String) (state : State) :
    (failoverTo config region state).counted =
      (failoverTo config region state).moveCounted .operator state := by
  by_cases hsame : state.activeRegion = region
  · simp [failoverTo, Step.moveCounted, hon, hsame]
  · simp [failoverTo, transition, Step.moveCounted, hon, hsame, Ne.symm hsame]

theorem counted_restorePrimary (state : State) :
    (restorePrimary config state).counted =
      (restorePrimary config state).moveCounted .restore state := by
  simp [restorePrimary, Step.moveCounted, hon, eq_comm]

theorem tally_failure {now : Instant} {state : State} {operation : Operation} {cause : Cause}
    (hstate : (operation.apply config now state).state =
      (recordFailure config now cause state).state)
    (hcounted : (operation.apply config now state).counted =
      (recordFailure config now cause state).counted)
    (hcause : operation.cause? = some cause)
    (hmover : operation.mover? config = some .automatic) :
    (operation.apply config now state).counted =
      (Entry.of config now state operation).tally config := by
  simp [Entry.tally, Entry.of, Entry.moves, hstate, hcounted, hcause, hmover,
    counted_recordFailure hon, Step.moveCounted]

omit hon in
theorem tally_request {now : Instant} {state : State} {operation : Operation} {step : Step}
    {trigger : FailoverTrigger}
    (happly : operation.apply config now state = step.applied)
    (hcause : operation.cause? = none) (hmover : operation.mover? config = some trigger)
    (hcounted : step.counted = step.moveCounted trigger state) :
    (operation.apply config now state).counted =
      (Entry.of config now state operation).tally config := by
  simp [Entry.tally, Entry.of, Entry.moves, happly, hcause, hmover, Step.applied, hcounted,
    Step.moveCounted]

omit hon in
theorem tally_idle (operation : Operation) (hcause : operation.cause? = none)
    (hmover : operation.mover? config = none) (now : Instant) (state : State) :
    (Entry.of config now state operation).tally config = [] := by
  simp [Entry.tally, Entry.of, hcause, hmover]

/-- An operation counts the failure that it reports and the move that it makes. -/
theorem tally_apply (now : Instant) (state : State) (operation : Operation) :
    (operation.apply config now state).counted =
      (Entry.of config now state operation).tally config := by
  cases operation with
  | fail cause => exact tally_failure hon rfl rfl rfl rfl
  | observe outcome =>
      cases hcause : outcome.cause? with
      | none =>
          have hmover : (Operation.observe outcome).mover? config = none := by
            simp [Operation.mover?, hcause]
          rw [tally_idle (.observe outcome) hcause hmover]
          simp [Operation.apply, Failover.observe, hcause]
      | some cause =>
          have hobserve : Failover.observe config now outcome state =
              recordFailure config now cause state := by
            simp [Failover.observe, hcause]
          exact tally_failure hon (congrArg Step.state hobserve)
            (congrArg Step.counted hobserve) hcause (by simp [Operation.mover?, hcause])
  | reset => exact (tally_idle .reset rfl rfl now state).symm
  | trigger => exact tally_request rfl rfl rfl (counted_triggerFailover hon state)
  | moveTo region => exact tally_request rfl rfl rfl (counted_failoverTo hon region state)
  | restore => exact tally_request rfl rfl rfl (counted_restorePrimary hon state)
  | operate argument =>
      cases hrequest : Request.ofArgument config argument with
      | failover =>
          refine tally_request ?_ rfl ?_ (counted_triggerFailover hon state)
          · simp [Operation.apply, operate, hon, hrequest]
          · simp [Operation.mover?, hrequest]
      | restore =>
          refine tally_request ?_ rfl ?_ (counted_restorePrimary hon state)
          · simp [Operation.apply, operate, hon, hrequest]
          · simp [Operation.mover?, hrequest]
      | region name =>
          refine tally_request ?_ rfl ?_ (counted_failoverTo hon name state)
          · simp [Operation.apply, operate, hon, hrequest]
          · simp [Operation.mover?, hrequest]
      | unknown name =>
          have hmover : (Operation.operate argument).mover? config = none := by
            simp [Operation.mover?, hrequest]
          rw [tally_idle (.operate argument) rfl hmover]
          simp [Operation.apply, operate, hon, hrequest]

/-- A run counts what its history shows, entry by entry. -/
theorem tally_run (state : State) (operations : List (Instant × Operation)) :
    (run config state operations).2 =
      (history config state operations).flatMap (Entry.tally config) := by
  induction operations generalizing state with
  | nil => rfl
  | cons first operations ih =>
      obtain ⟨now, operation⟩ := first
      rw [history, List.flatMap_cons, ← tally_apply hon, Entry.of, ← ih]
      rfl

end Enabled

/-- Without failover nothing is counted. -/
theorem tally_of_disabled {config : Config.Failover} (hoff : config.enabled = false)
    (state : State) (operations : List (Instant × Operation)) :
    (run config state operations).2 = [] := by
  induction operations generalizing state with
  | nil => rfl
  | cons first operations ih =>
      obtain ⟨now, operation⟩ := first
      obtain ⟨-, hnone, -⟩ := apply_of_disabled hoff now state operation
      simp only [run, hnone, ih, List.nil_append]

/-! ## How often -/

/-- What each item counts once or not at all is counted by the items that count it. -/
theorem count_flatMap {Item : Type} {counted : Item → List Counter} {test : Item → Bool}
    {counter : Counter}
    (hitem : ∀ item, (counted item).count counter = if test item then 1 else 0)
    (items : List Item) : (items.flatMap counted).count counter = items.countP test := by
  induction items with
  | nil => rfl
  | cons item items ih =>
      rw [List.flatMap_cons, List.count_append, hitem, ih, List.countP_cons, Nat.add_comm]

namespace Entry

theorem count_failures (config : Config.Failover) (label : String) (entry : Entry) :
    (entry.tally config).count (.regionFailures label) =
      if entry.reports label then 1 else 0 := by
  have hmoves : (if entry.moves then
      (entry.operation.mover? config).toList.map Counter.regionFailovers
      else []).count (.regionFailures label) = 0 := by
    split <;> simp [List.count_eq_zero]
  rw [tally, List.count_append, hmoves, Nat.add_zero, reports]
  cases entry.operation.cause? with
  | none => simp
  | some cause => simp [List.count_singleton]

theorem count_moves (config : Config.Failover) (trigger : FailoverTrigger) (entry : Entry) :
    (entry.tally config).count (.regionFailovers trigger) =
      if entry.movedBy config trigger then 1 else 0 := by
  have hfailures : (entry.operation.cause?.toList.map fun cause =>
      Counter.regionFailures cause.label).count (.regionFailovers trigger) = 0 := by
    simp [List.count_eq_zero]
  rw [tally, List.count_append, hfailures, Nat.zero_add, movedBy]
  cases entry.moves with
  | false => simp
  | true =>
      cases entry.operation.mover? config with
      | none => simp
      | some mover => simp [List.count_singleton]

end Entry

/-- What nobody would move does not move. -/
theorem moves_of_no_mover {config : Config.Failover} {operation : Operation}
    (hnone : operation.mover? config = none) (now : Instant) (state : State) :
    (Entry.of config now state operation).moves = false := by
  have hreset : (resetFailures config state).activeRegion = state.activeRegion := by
    unfold resetFailures
    split <;> rfl
  cases operation with
  | observe outcome =>
      have hcause : outcome.cause? = none := by simpa [Operation.mover?] using hnone
      simp [Entry.moves, Entry.of, Operation.apply, Failover.observe, hcause, hreset]
  | reset => simp [Entry.moves, Entry.of, Operation.apply, hreset]
  | operate argument =>
      cases hrequest : Request.ofArgument config argument with
      | unknown name =>
          cases hon : config.enabled <;>
            simp [Entry.moves, Entry.of, Operation.apply, operate, hon, hrequest]
      | _ => simp [Operation.mover?, hrequest] at hnone
  | _ => simp [Operation.mover?] at hnone

theorem moves_eq_add (config : Config.Failover) (now : Instant) (state : State)
    (operation : Operation) :
    let entry := Entry.of config now state operation
    (if entry.moves then 1 else 0) =
      (if entry.movedBy config .automatic then 1 else 0) +
        (if entry.movedBy config .operator then 1 else 0) +
          (if entry.movedBy config .restore then 1 else 0) := by
  intro entry
  have hsame : entry.operation = operation := rfl
  cases hmoves : entry.moves with
  | false => simp [Entry.movedBy, hmoves]
  | true =>
      cases hmover : operation.mover? config with
      | none =>
          have hstill := moves_of_no_mover hmover now state
          exact absurd (hmoves.symm.trans hstill) (by decide)
      | some trigger => cases trigger <;> simp [Entry.movedBy, hmoves, hsame, hmover]

/-- Every move has one mover. -/
theorem countP_moves (config : Config.Failover) (state : State)
    (operations : List (Instant × Operation)) :
    (history config state operations).countP Entry.moves =
      (history config state operations).countP (Entry.movedBy config .automatic) +
        (history config state operations).countP (Entry.movedBy config .operator) +
          (history config state operations).countP (Entry.movedBy config .restore) := by
  induction operations generalizing state with
  | nil => rfl
  | cons first operations ih =>
      obtain ⟨now, operation⟩ := first
      have hentry := moves_eq_add config now state operation
      simp only [history, List.countP_cons, ih, hentry]
      omega

/-- While failover is enabled the counter of moves has grown by one for each operation of
a run that changed the active region, under the label of its mover: the reported
failure, the operator, or the return to the primary.  The counter of failures has grown
by one for each reported failure, under the label of its cause.  While failover is
disabled neither grows. -/
theorem every_move_counted_once (config : Config.Failover) (state : State)
    (operations : List (Instant × Operation)) :
    let counted := (run config state operations).2
    let entries := history config state operations
    (config.enabled = true →
      (∀ trigger, increase counted (.regionFailovers trigger) =
        entries.countP (Entry.movedBy config trigger)) ∧
      increase counted (.regionFailovers .automatic) +
          increase counted (.regionFailovers .operator) +
            increase counted (.regionFailovers .restore) =
        entries.countP Entry.moves ∧
      ∀ label, increase counted (.regionFailures label) =
        entries.countP (Entry.reports label)) ∧
    (config.enabled = false →
      (∀ trigger, increase counted (.regionFailovers trigger) = 0) ∧
        ∀ label, increase counted (.regionFailures label) = 0) := by
  intro counted entries
  simp only [increase_eq]
  constructor
  · intro hon
    have hcounted : counted = entries.flatMap (Entry.tally config) :=
      tally_run hon state operations
    have hmoves : ∀ trigger, counted.count (.regionFailovers trigger) =
        entries.countP (Entry.movedBy config trigger) := by
      intro trigger
      rw [hcounted]
      exact count_flatMap (Entry.count_moves config trigger) entries
    refine ⟨hmoves, ?_, fun label => ?_⟩
    · rw [hmoves, hmoves, hmoves, countP_moves]
    · rw [hcounted]
      exact count_flatMap (Entry.count_failures config label) entries
  · intro hoff
    have hcounted : counted = [] := tally_of_disabled hoff state operations
    simp [hcounted]

/-- Three failures, and operators who change their mind. -/
def restlessHour : List (Instant × Operation) :=
  [(secondsIn 0, .fail .timeout), (secondsIn 5, .fail (.status 503)),
    (secondsIn 10, .observe .timedOut), (secondsIn 20, .trigger),
    (secondsIn 30, .operate (some " Primary ")), (secondsIn 40, .restore),
    (secondsIn 50, .operate none), (secondsIn 60, .moveTo "eu-central"),
    (secondsIn 70, .operate (some "mars-1"))]

theorem restless_hour_counted :
    let counted := (run drill (.initial drill) restlessHour).2
    let still := { drill with enabled := false }
    drill.enabled = true ∧ still.enabled = false ∧
      increase counted (.regionFailovers .automatic) = 1 ∧
      increase counted (.regionFailovers .operator) = 2 ∧
      increase counted (.regionFailovers .restore) = 1 ∧
      increase counted (.regionFailures "timeout") = 2 ∧
      increase counted (.regionFailures "upstream_status") = 1 ∧
      increase (run still (.initial still) restlessHour).2
        (.regionFailures "timeout") = 0 := by
  intro counted still
  obtain ⟨hmoves, -, hfailures⟩ :=
    (every_move_counted_once drill (.initial drill) restlessHour).1 rfl
  obtain ⟨-, hnone⟩ :=
    (every_move_counted_once still (.initial still) restlessHour).2 rfl
  exact ⟨rfl, rfl, (hmoves .automatic).trans (by decide +kernel),
    (hmoves .operator).trans (by decide +kernel),
    (hmoves .restore).trans (by decide +kernel),
    (hfailures "timeout").trans (by decide +kernel),
    (hfailures "upstream_status").trans (by decide +kernel), hnone "timeout"⟩

end EdgeGateway.Failover
