import EdgeGateway.Proofs.Failover.Change
import Mathlib.Data.List.Chain
import Mathlib.Data.List.Find
import Mathlib.Data.List.Infix

/-!
# Failures in a row

The state of a region keeps one number and the time of one failure.  Both are
functions of what has happened so far: the number is the length of the present
streak of failures, taken modulo the threshold, and a streak is a property of the
end of the history.  So a move to a backup depends on the history alone.
-/

namespace EdgeGateway.Failover

/-- One operation of a run and the states around it. -/
structure Entry where
  time : Instant
  operation : Operation
  before : State
  after : State
  deriving Repr, DecidableEq

namespace Entry

def of (config : Config.Failover) (now : Instant) (state : State)
    (operation : Operation) : Entry :=
  ⟨now, operation, state, (operation.apply config now state).state⟩

def isFailure (entry : Entry) : Bool := entry.operation.cause?.isSome

/-- A request ends a streak only if it has changed the active region. -/
def endsStreak (config : Config.Failover) (entry : Entry) : Bool :=
  entry.operation.startsOver config ||
    (entry.operation.isRequest &&
      entry.after.activeRegion ≠ entry.before.activeRegion)

end Entry

/-- What a run from a state has done, oldest first. -/
def history (config : Config.Failover) (state : State) :
    List (Instant × Operation) → List Entry
  | [] => []
  | (now, operation) :: operations =>
      let entry := Entry.of config now state operation
      entry :: history config entry.after operations

def failureTimes (entries : List Entry) : List Instant :=
  (entries.filter Entry.isFailure).map Entry.time

/-- Whether a failure comes no later than a window after the one before it. -/
def Within (window : Duration) (earlier later : Instant) : Prop :=
  later.nanos ≤ earlier.nanos + window.nanos

instance (window : Duration) : DecidableRel (Within window) :=
  fun _ _ => Nat.decLe _ _

/-- Nothing ends the streak, and no two failures in a row are far apart. -/
def Unbroken (config : Config.Failover) (entries : List Entry) : Prop :=
  (∀ entry ∈ entries, entry.endsStreak config = false) ∧
    (failureTimes entries).IsChain (Within config.failureWindow)

instance (config : Config.Failover) : DecidablePred (Unbroken config) :=
  fun _ => inferInstanceAs (Decidable (_ ∧ _))

/-- The longest unbroken end of a history. -/
def trailing (config : Config.Failover) (entries : List Entry) : List Entry :=
  (entries.tails.find? (Unbroken config ·)).getD []

def streak (config : Config.Failover) (entries : List Entry) : Nat :=
  (failureTimes (trailing config entries)).length

/-! ## Streaks of growing histories -/

@[simp]
theorem failureTimes_append (entries others : List Entry) :
    failureTimes (entries ++ others) =
      failureTimes entries ++ failureTimes others := by
  simp [failureTimes]

theorem failureTimes_failure {entry : Entry} (hfailure : entry.isFailure = true) :
    failureTimes [entry] = [entry.time] := by
  simp [failureTimes, hfailure]

theorem failureTimes_idle {entry : Entry} (hfailure : entry.isFailure = false) :
    failureTimes [entry] = [] := by
  simp [failureTimes, hfailure]

theorem unbroken_nil (config : Config.Failover) : Unbroken config [] := by
  simp [Unbroken, failureTimes]

theorem find?_tails (config : Config.Failover) (entries : List Entry) :
    entries.tails.find? (Unbroken config ·) = some (trailing config entries) := by
  have hsome : (entries.tails.find? (Unbroken config ·)).isSome := by
    rw [List.find?_isSome]
    exact ⟨[], by simp, by simpa using unbroken_nil config⟩
  obtain ⟨part, hpart⟩ := Option.isSome_iff_exists.mp hsome
  simp [trailing, hpart]

theorem trailing_suffix (config : Config.Failover) (entries : List Entry) :
    trailing config entries <:+ entries := by
  have hmem := List.mem_of_find?_eq_some (find?_tails config entries)
  simpa using hmem

theorem trailing_unbroken (config : Config.Failover) (entries : List Entry) :
    Unbroken config (trailing config entries) := by
  simpa using List.find?_some (find?_tails config entries)

/-- Every unbroken end of the history is an end of the trailing part. -/
theorem suffix_trailing {config : Config.Failover} {entries part : List Entry}
    (hsuffix : part <:+ entries) (hunbroken : Unbroken config part) :
    part <:+ trailing config entries := by
  induction entries with
  | nil =>
      obtain rfl : part = [] := List.suffix_nil.mp hsuffix
      exact List.nil_suffix
  | cons entry entries ih =>
      by_cases hwhole : Unbroken config (entry :: entries)
      · have : trailing config (entry :: entries) = entry :: entries := by
          simp [trailing, List.tails, hwhole]
        rwa [this]
      · have hrest : trailing config (entry :: entries) =
            trailing config entries := by
          simp [trailing, List.tails, hwhole]
        rw [hrest]
        rcases List.suffix_cons_iff.mp hsuffix with rfl | hsuffix
        · exact absurd hunbroken hwhole
        · exact ih hsuffix

/-- The ends of a history that has grown by one entry are the old ends with that
entry, and the empty one. -/
theorem trailing_concat (config : Config.Failover) (entries : List Entry)
    (entry : Entry) :
    trailing config (entries ++ [entry]) =
      ((entries.tails.find? fun part => Unbroken config (part ++ [entry])).map
        (· ++ [entry])).getD [] := by
  have htails : (entries ++ [entry]).tails =
      entries.tails.map (· ++ [entry]) ++ [[]] := by
    rw [List.tails_append]
    simp [List.tails]
  rw [trailing, htails, List.find?_append, List.find?_map]
  cases hfound : entries.tails.find? fun part =>
      Unbroken config (part ++ [entry]) with
  | some part => simp [hfound]
  | none => simp [hfound, unbroken_nil]

theorem unbroken_concat_idle {config : Config.Failover} {part : List Entry}
    {entry : Entry} (hfailure : entry.isFailure = false)
    (hends : entry.endsStreak config = false) :
    Unbroken config (part ++ [entry]) ↔ Unbroken config part := by
  have htimes : failureTimes (part ++ [entry]) = failureTimes part := by
    rw [failureTimes_append, failureTimes_idle hfailure, List.append_nil]
  simp [Unbroken, htimes, or_imp, forall_and, hends]

theorem unbroken_concat_failure {config : Config.Failover} {part : List Entry}
    {entry : Entry} (hfailure : entry.isFailure = true)
    (hends : entry.endsStreak config = false) :
    Unbroken config (part ++ [entry]) ↔
      Unbroken config part ∧
        ∀ last ∈ (failureTimes part).getLast?,
          Within config.failureWindow last entry.time := by
  have htimes : failureTimes (part ++ [entry]) =
      failureTimes part ++ [entry.time] := by
    rw [failureTimes_append, failureTimes_failure hfailure]
  simp [Unbroken, htimes, or_imp, forall_and, hends, List.isChain_append,
    and_assoc]

/-- The last failure of an end of the history is the last one of all, unless
there is none in it. -/
theorem getLast?_failureTimes_suffix {entries part : List Entry}
    (hsuffix : part <:+ entries) :
    failureTimes part = [] ∨
      (failureTimes part).getLast? = (failureTimes entries).getLast? := by
  obtain ⟨older, rfl⟩ := hsuffix
  by_cases hnone : failureTimes part = []
  · exact Or.inl hnone
  · right
    rw [failureTimes_append, List.getLast?_append_of_ne_nil _ hnone]

theorem streak_concat_idle {config : Config.Failover} (entries : List Entry)
    {entry : Entry} (hfailure : entry.isFailure = false)
    (hends : entry.endsStreak config = false) :
    streak config (entries ++ [entry]) = streak config entries := by
  have htrailing : trailing config (entries ++ [entry]) =
      trailing config entries ++ [entry] := by
    simp only [trailing_concat, unbroken_concat_idle hfailure hends,
      find?_tails, Option.map_some, Option.getD_some]
  rw [streak, htrailing, failureTimes_append, failureTimes_idle hfailure,
    List.append_nil]
  rfl

theorem streak_concat_end {config : Config.Failover} (entries : List Entry)
    {entry : Entry} (hends : entry.endsStreak config = true) :
    streak config (entries ++ [entry]) = 0 := by
  have hbroken : ∀ part, ¬ Unbroken config (part ++ [entry]) := by
    intro part hunbroken
    have := hunbroken.1 entry (by simp)
    simp [hends] at this
  have htrailing : trailing config (entries ++ [entry]) = [] := by
    have hnone : (entries.tails.find? fun part =>
        Unbroken config (part ++ [entry])) = none := by
      simp [List.find?_eq_none, hbroken]
    simp [trailing_concat, hnone]
  simp [streak, htrailing, failureTimes]

/-- A failure close to the last one makes the streak longer. -/
theorem streak_concat_near {config : Config.Failover} {entries : List Entry}
    {entry : Entry} (hfailure : entry.isFailure = true)
    (hends : entry.endsStreak config = false)
    (hnear : ∀ last ∈ (failureTimes entries).getLast?,
      Within config.failureWindow last entry.time) :
    streak config (entries ++ [entry]) = streak config entries + 1 := by
  have hsame : ∀ part ∈ entries.tails,
      decide (Unbroken config (part ++ [entry])) =
        decide (Unbroken config part) := by
    intro part hpart
    have hsuffix : part <:+ entries := by simpa using hpart
    rw [decide_eq_decide, unbroken_concat_failure hfailure hends,
      and_iff_left_iff_imp]
    intro _ last hlast
    rcases getLast?_failureTimes_suffix hsuffix with hnone | hlasts
    · simp [hnone] at hlast
    · exact hnear last (hlasts ▸ hlast)
  have htrailing : trailing config (entries ++ [entry]) =
      trailing config entries ++ [entry] := by
    rw [trailing_concat, List.find?_congr hsame, find?_tails]
    rfl
  rw [streak, htrailing, failureTimes_append, failureTimes_failure hfailure,
    List.length_append]
  rfl

/-- A failure far from the last one begins a streak. -/
theorem streak_concat_far {config : Config.Failover} {entries : List Entry}
    {entry : Entry} (hfailure : entry.isFailure = true)
    (hends : entry.endsStreak config = false) {last : Instant}
    (hlast : (failureTimes entries).getLast? = some last)
    (hfar : ¬ Within config.failureWindow last entry.time) :
    streak config (entries ++ [entry]) = 1 := by
  have hempty : Unbroken config ([] ++ [entry]) := by
    rw [unbroken_concat_failure hfailure hends]
    exact ⟨unbroken_nil config, by simp [failureTimes]⟩
  have hfound : (entries.tails.find? fun part =>
      Unbroken config (part ++ [entry])).isSome := by
    rw [List.find?_isSome]
    exact ⟨[], by simp, by simpa using hempty⟩
  obtain ⟨part, hpart⟩ := Option.isSome_iff_exists.mp hfound
  have hsuffix : part <:+ entries := by
    simpa using List.mem_of_find?_eq_some hpart
  have hunbroken : Unbroken config (part ++ [entry]) := by
    simpa using List.find?_some hpart
  rw [unbroken_concat_failure hfailure hends] at hunbroken
  have hnone : failureTimes part = [] := by
    rcases getLast?_failureTimes_suffix hsuffix with hnone | hlasts
    · exact hnone
    · exact absurd (hunbroken.2 last (by simp [hlasts, hlast])) hfar
  have htrailing : trailing config (entries ++ [entry]) = part ++ [entry] := by
    simp [trailing_concat, hpart]
  rw [streak, htrailing, failureTimes_append, hnone,
    failureTimes_failure hfailure]
  rfl

/-! ## The state as a function of the history -/

/-- What the state of a region keeps of its history. -/
structure Counted (config : Config.Failover) (entries : List Entry)
    (state : State) : Prop where
  count : state.failureCount = streak config entries % config.failureThreshold
  last : state.lastFailure = (failureTimes entries).getLast?

theorem counted_initial (config : Config.Failover) :
    Counted config [] (.initial config) where
  count := by
    have hnil : trailing config [] = [] := by
      simp [trailing, List.tails, unbroken_nil]
    simp [State.initial, streak, hnil, failureTimes]
  last := by simp [State.initial, failureTimes]

theorem windowExpired_eq_false_iff (config : Config.Failover) (state : State)
    (now : Instant) :
    windowExpired config state now = false ↔
      ∀ last ∈ state.lastFailure, Within config.failureWindow last now := by
  cases hlast : state.lastFailure with
  | none => simp [windowExpired, hlast]
  | some last =>
      simp [windowExpired, hlast, Instant.since, Within]
      omega

theorem reached_near {config : Config.Failover} {state : State} {now : Instant}
    (hnear : windowExpired config state now = false) :
    reached config state now = state.failureCount + 1 := by
  simp [reached, hnear]

theorem reached_far {config : Config.Failover} {state : State} {now : Instant}
    (hfar : windowExpired config state now = true) :
    reached config state now = 1 := by
  simp [reached, hfar]

/-- A count that reaches the threshold starts over. -/
theorem failureCount_afterFailure {config : Config.Failover} {state : State}
    (now : Instant) (hcount : state.failureCount < config.failureThreshold) :
    (afterFailure config state now).1.failureCount =
      reached config state now % config.failureThreshold := by
  have hle : reached config state now ≤ config.failureThreshold :=
    (reached_le config state now).trans hcount
  rcases Nat.lt_or_eq_of_le hle with hbelow | hfull
  · rw [afterFailure_below hbelow, Nat.mod_eq_of_lt hbelow]
  · rw [afterFailure_full hfull.ge, hfull, Nat.mod_self]

section Runs

variable {config : Config.Failover} (hon : config.enabled = true)
variable (hthreshold : 1 ≤ config.failureThreshold)

include hon in
/-- A streak goes on over failures and over what changes nothing. -/
theorem endsStreak_of (now : Instant) (state : State) (operation : Operation) :
    (Entry.of config now state operation).endsStreak config = false ↔
      operation.change config state = .failure ∨
        operation.change config state = .nothing := by
  have hfits := fits_change config state operation
  have hafter := state_apply hon now state operation
  cases hchange : operation.change config state with
  | failure =>
      rw [hchange] at hfits
      simp [Entry.endsStreak, Entry.of, hfits.2.1, hfits.2.2]
  | reset =>
      rw [hchange] at hfits
      simp [Entry.endsStreak, Entry.of, hfits.2]
  | restore =>
      rw [hchange] at hfits
      simp [Entry.endsStreak, Entry.of, hfits.2]
  | move target =>
      rw [hchange] at hfits
      obtain ⟨-, -, hrequest, hother⟩ := hfits
      rw [hchange] at hafter
      simp [Entry.endsStreak, Entry.of, hafter, Change.result, hrequest, hother]
  | nothing =>
      rw [hchange] at hfits hafter
      simp [Entry.endsStreak, Entry.of, hafter, Change.result, hfits.2]

include hon hthreshold in
theorem counted_failure {entries : List Entry} {state : State}
    (hcounted : Counted config entries state) (now : Instant)
    {operation : Operation}
    (hchange : operation.change config state = .failure) :
    Counted config (entries ++ [Entry.of config now state operation])
      (afterFailure config state now).1 := by
  let entry := Entry.of config now state operation
  have hfailure : entry.isFailure = true :=
    (change_eq_failure_iff config state operation).mp hchange
  have hends : entry.endsStreak config = false :=
    (endsStreak_of hon now state operation).mpr (Or.inl hchange)
  have hbound : state.failureCount < config.failureThreshold :=
    hcounted.count ▸ Nat.mod_lt _ hthreshold
  refine ⟨?_, ?_⟩
  · rw [failureCount_afterFailure now hbound]
    cases hwindow : windowExpired config state now with
    | false =>
        have hnear := (windowExpired_eq_false_iff config state now).mp hwindow
        rw [hcounted.last] at hnear
        rw [reached_near hwindow, streak_concat_near hfailure hends hnear,
          hcounted.count, Nat.mod_add_mod]
    | true =>
        have hfar : ¬ ∀ last ∈ state.lastFailure,
            Within config.failureWindow last now := by
          rw [← windowExpired_eq_false_iff, hwindow]
          simp
        rw [hcounted.last] at hfar
        push Not at hfar
        obtain ⟨last, hlast, hfar⟩ := hfar
        rw [reached_far hwindow, streak_concat_far hfailure hends hlast hfar]
  · rw [lastFailure_afterFailure, failureTimes_append,
      failureTimes_failure hfailure, List.getLast?_concat]
    rfl

include hon hthreshold in
/-- What the state keeps of the history goes on to hold. -/
theorem counted_concat {entries : List Entry} {state : State}
    (hcounted : Counted config entries state) (now : Instant)
    (operation : Operation) :
    Counted config (entries ++ [Entry.of config now state operation])
      (operation.apply config now state).state := by
  have hends := endsStreak_of hon now state operation
  have hidle : operation.change config state ≠ .failure →
      (Entry.of config now state operation).isFailure = false := by
    intro hchange
    rw [Ne, change_eq_failure_iff] at hchange
    simpa [Entry.isFailure, Entry.of] using hchange
  have htimes : operation.change config state ≠ .failure →
      failureTimes (entries ++ [Entry.of config now state operation]) =
        failureTimes entries := by
    intro hchange
    rw [failureTimes_append, failureTimes_idle (hidle hchange), List.append_nil]
  rw [state_apply hon]
  cases hchange : operation.change config state with
  | failure => exact counted_failure hon hthreshold hcounted now hchange
  | nothing =>
      refine ⟨?_, ?_⟩
      · rw [streak_concat_idle entries (hidle (by simp [hchange]))
          (hends.mpr (Or.inr hchange))]
        exact hcounted.count
      · rw [htimes (by simp [hchange])]
        exact hcounted.last
  | _ =>
      refine ⟨?_, ?_⟩
      · rw [streak_concat_end entries (by simpa [hchange] using hends)]
        simp [Change.result]
      · rw [htimes (by simp [hchange])]
        exact hcounted.last

theorem history_append (config : Config.Failover) (state : State)
    (operations others : List (Instant × Operation)) :
    history config state (operations ++ others) =
      history config state operations ++
        history config (run config state operations).1 others := by
  induction operations generalizing state with
  | nil => rfl
  | cons first operations ih =>
      obtain ⟨now, operation⟩ := first
      simp only [List.cons_append, history, ih, run]
      rfl

theorem run_append (config : Config.Failover) (state : State)
    (operations others : List (Instant × Operation)) :
    (run config state (operations ++ others)).1 =
      (run config (run config state operations).1 others).1 := by
  induction operations generalizing state with
  | nil => rfl
  | cons first operations ih =>
      obtain ⟨now, operation⟩ := first
      simp only [List.cons_append, run, ih]

include hon hthreshold in
theorem counted_run (operations : List (Instant × Operation)) :
    Counted config (history config (.initial config) operations)
      (run config (.initial config) operations).1 := by
  induction operations using List.reverseRecOn with
  | nil => exact counted_initial config
  | append_singleton operations last ih =>
      obtain ⟨now, operation⟩ := last
      rw [history_append, run_append]
      exact counted_concat hon hthreshold ih now operation

theorem escape?_isSome_iff (config : Config.Failover) (state : State) :
    (escape? config state).isSome ↔
      state.activeRegion = config.primaryRegion ∧
        ∃ backup ∈ config.backupRegions, backup ≠ config.primaryRegion := by
  unfold escape?
  by_cases hprimary : state.activeRegion = config.primaryRegion
  · simp [hprimary, firstBackup?]
  · simp [hprimary]

/-- A failure moves the active region when the count is used up, if there is a
region to move to. -/
theorem activeRegion_afterFailure (config : Config.Failover) (state : State)
    (now : Instant) :
    (afterFailure config state now).1.activeRegion =
      if (afterFailure config state now).1.failureCount = 0 then
        (escape? config state).getD state.activeRegion
      else state.activeRegion := by
  rcases Nat.lt_or_ge (reached config state now) config.failureThreshold with
    hbelow | hfull
  · simp [afterFailure_below hbelow, reached]
  · simp [afterFailure_full hfull]

/-- The first backup that is not the primary. -/
def IsFirstBackup (config : Config.Failover) (region : String) : Prop :=
  ∃ earlier later, config.backupRegions = earlier ++ region :: later ∧
    region ≠ config.primaryRegion ∧
      ∀ other ∈ earlier, other = config.primaryRegion

theorem isFirstBackup_of_escape? {config : Config.Failover} {state : State}
    {target : String} (htarget : escape? config state = some target) :
    IsFirstBackup config target := by
  unfold escape? at htarget
  split at htarget
  next hprimary =>
    rw [firstBackup?, List.find?_eq_some_iff_append] at htarget
    obtain ⟨hother, earlier, later, hbackups, hearlier⟩ := htarget
    exact ⟨earlier, later, hbackups, by simpa [hprimary] using hother,
      by simpa [hprimary] using hearlier⟩
  next => simp at htarget

/-- A request that asks for what is so already, or for what there is not. -/
def Operation.IsVain (config : Config.Failover) (state : State) :
    Operation → Prop
  | trigger =>
      state.activeRegion ≠ config.primaryRegion ∨
        ∀ backup ∈ config.backupRegions, backup = config.primaryRegion
  | moveTo region => region = state.activeRegion
  | _ => False

theorem change_of_isVain {config : Config.Failover} {state : State}
    {operation : Operation} (hvain : operation.IsVain config state) :
    operation.change config state = .nothing := by
  cases operation with
  | trigger =>
      by_cases hprimary : state.activeRegion = config.primaryRegion
      · have hnone : firstBackup? config config.primaryRegion = none := by
          simpa [firstBackup?] using hvain.resolve_left (not_not.mpr hprimary)
        simp [Operation.change, Change.ofTrigger, hprimary, hnone]
      · simp [Operation.change, Change.ofTrigger, hprimary]
  | moveTo region =>
      obtain rfl : region = state.activeRegion := hvain
      simp [Operation.change, Change.ofMove]
  | _ => exact hvain.elim

/-- A failure that uses the count up moves the active region from the primary to
the first backup, if there is one, and no other failure moves it. -/
theorem moves_iff_of_counted {state : State} {now : Instant} {entries : List Entry}
    (hcounted : Counted config entries (afterFailure config state now).1) :
    let next := (afterFailure config state now).1
    (next.activeRegion ≠ state.activeRegion ↔
      config.failureThreshold ∣ streak config entries ∧
        state.activeRegion = config.primaryRegion ∧
          ∃ backup ∈ config.backupRegions, backup ≠ config.primaryRegion) ∧
    (next.activeRegion ≠ state.activeRegion →
      IsFirstBackup config next.activeRegion) := by
  intro next
  have hfull : config.failureThreshold ∣ streak config entries ↔
      next.failureCount = 0 := by
    rw [Nat.dvd_iff_mod_eq_zero, hcounted.count]
  have hregion : next.activeRegion = if next.failureCount = 0 then
      (escape? config state).getD state.activeRegion else state.activeRegion :=
    activeRegion_afterFailure config state now
  rw [hfull, ← escape?_isSome_iff]
  by_cases hzero : next.failureCount = 0
  · cases htarget : escape? config state with
    | none => simp [hregion, hzero, htarget]
    | some target =>
        have hother := escape?_ne htarget
        have hfirst := isFirstBackup_of_escape? htarget
        simp [hregion, hzero, htarget, hother, hfirst]
  · simp [hregion, hzero]

include hon in
/-- A request in vain is no failure, and a streak goes on over it. -/
theorem streak_of_isVain {state : State} {operation : Operation} (now : Instant)
    (entries : List Entry) (hvain : operation.IsVain config state) :
    streak config (entries ++ [Entry.of config now state operation]) =
      streak config entries := by
  have hnothing := change_of_isVain hvain
  have hidle : (Entry.of config now state operation).isFailure = false := by
    have hfailure := change_eq_failure_iff config state operation
    rw [hnothing] at hfailure
    simpa [Entry.isFailure, Entry.of] using hfailure
  exact streak_concat_idle entries hidle
    ((endsStreak_of hon now state operation).mpr (Or.inr hnothing))

/-- After any run the count is the length of the streak modulo the threshold.
A failure moves the active region exactly when it completes a multiple of the
threshold while the primary is active and there is another region to go to, and
then to the first one; requests in vain change neither the state nor the streak.
The times of the run need not ascend. -/
theorem failureCount_eq_streak_mod (hon : config.enabled = true)
    (hthreshold : 1 ≤ config.failureThreshold)
    (operations : List (Instant × Operation)) :
    let state := (run config (.initial config) operations).1
    let past := history config (.initial config) operations
    (trailing config past <:+ past ∧ Unbroken config (trailing config past) ∧
      ∀ part, part <:+ past → Unbroken config part →
        part <:+ trailing config past) ∧
    state.failureCount = streak config past % config.failureThreshold ∧
    ∀ now operation,
      let next := (run config (.initial config)
        (operations ++ [(now, operation)])).1
      let grown := history config (.initial config)
        (operations ++ [(now, operation)])
      (operation.cause?.isSome →
        (next.activeRegion ≠ state.activeRegion ↔
          config.failureThreshold ∣ streak config grown ∧
            state.activeRegion = config.primaryRegion ∧
              ∃ backup ∈ config.backupRegions, backup ≠ config.primaryRegion) ∧
        (next.activeRegion ≠ state.activeRegion →
          IsFirstBackup config next.activeRegion)) ∧
      (operation.IsVain config state →
        next = state ∧ streak config grown = streak config past) := by
  intro state past
  have hcounted : Counted config past state :=
    counted_run hon hthreshold operations
  refine ⟨⟨trailing_suffix config past, trailing_unbroken config past,
    fun part => suffix_trailing⟩, hcounted.count, ?_⟩
  intro now operation next grown
  have hnext : next = (operation.change config state).result config now state := by
    change (run config (.initial config) (operations ++ [(now, operation)])).1 = _
    rw [run_append]
    exact state_apply hon now state operation
  have hgrown : Counted config grown next :=
    counted_run hon hthreshold (operations ++ [(now, operation)])
  refine ⟨?_, ?_⟩
  · intro hcause
    rw [(change_eq_failure_iff config state operation).mpr hcause] at hnext
    rw [hnext] at hgrown ⊢
    exact moves_iff_of_counted hgrown
  · intro hvain
    refine ⟨by rw [hnext, change_of_isVain hvain]; rfl, ?_⟩
    change streak config (history config _ (operations ++ [(now, operation)])) = _
    rw [history_append]
    exact streak_of_isVain hon now past hvain

end Runs

/-- Three failures in a minute are too many; the first backup is the primary. -/
def drill : Config.Failover where
  enabled := true
  primaryRegion := "us-east"
  backupRegions := ["us-east", "us-west", "eu-central"]

def secondsIn (seconds : Nat) : Instant := Instant.start.advance (.ofSeconds seconds)

/-- Two failures after a success, with a request in vain between them. -/
def twoFailures : List (Instant × Operation) :=
  [(secondsIn 0, .fail .timeout), (secondsIn 5, .observe (.success 204)),
    (secondsIn 10, .fail (.status 503)), (secondsIn 20, .moveTo "us-east"),
    (secondsIn 70, .observe .timedOut)]

theorem third_failure_leaves_primary :
    drill.enabled = true ∧ 1 ≤ drill.failureThreshold ∧
      (run drill (.initial drill) twoFailures).1.failureCount = 2 ∧
      (run drill (.initial drill)
        (twoFailures ++ [(secondsIn 130, .fail .timeout)])).1.activeRegion ≠
          "us-east" := by
  obtain ⟨-, hcount, hnext⟩ :=
    @failureCount_eq_streak_mod drill rfl (by decide) twoFailures
  refine ⟨rfl, by decide, hcount.trans (by decide), ?_⟩
  obtain ⟨hmoves, -⟩ := hnext (secondsIn 130) (.fail .timeout)
  exact (hmoves rfl).1.mpr ⟨by decide, by decide, by decide⟩

end EdgeGateway.Failover
