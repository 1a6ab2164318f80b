import EdgeGateway.Config.Validate
import EdgeGateway.Cors.Run
import EdgeGateway.Proofs.Chronicle
import EdgeGateway.Proofs.Cors.Question
import EdgeGateway.Proofs.Time.Expiring
import Mathlib.Data.List.Induction

/-!
# A cache that does not show

What a handler says to a preflight is what its policy says, whatever was asked
before.  The past shows in the mark of a hit alone: it is set for the lifetime of
the last answer that was found without the cache.  The one exception is a
lifetime that ends after the last instant of the clock.  Then an allowed preflight
that is not remembered has no answer.
-/

namespace EdgeGateway.Cors

open PreflightQuestion (ofRequest)

/-- The header fields or the error that a handler without a cache gives. -/
def plainAnswer (policy : Policy) (request : Http.Request) :
    Option (Except GatewayError Http.Headers) :=
  if isPreflight request then
    some <|
      match (ofRequest request).decision policy with
      | .ok allowance => .ok allowance.headers
      | .error rejection => .error (.policyRejection rejection.reason)
  else none

/-- An answer without the mark of a hit. -/
def content (answer : Option (Except GatewayError PreflightResponse)) :
    Option (Except GatewayError Http.Headers) :=
  answer.map (·.map PreflightResponse.headers)

namespace PreflightRun

/-! ## One request -/

/-- A request is no preflight, or its key is remembered, or it is rejected, or it
is allowed and its answer can be kept or cannot. -/
inductive Handled (run : PreflightRun) (request : Http.Request) : Prop where
  | other (hother : isPreflight request = false)
      (hanswer : run.answer request = .ok none)
      (hstep : run.step (.handle request) = run)
  | hit (allowance : Allowance) (hpreflight : isPreflight request = true)
      (hlive : run.cache.live? run.now (ofRequest request).key = some allowance)
      (hanswer : run.answer request = .ok (some (.ok ⟨allowance.headers, true⟩)))
      (hstep : run.step (.handle request) = (run.lookup (ofRequest request).key).2)
  | rejected (rejection : Rejection) (hpreflight : isPreflight request = true)
      (hlive : run.cache.live? run.now (ofRequest request).key = none)
      (hdecision : (ofRequest request).decision run.handler.policy =
        .error rejection)
      (hanswer : run.answer request =
        .ok (some (.error (.policyRejection rejection.reason))))
      (hstep : run.step (.handle request) = (run.lookup (ofRequest request).key).2)
  | kept (allowance : Allowance) (hpreflight : isPreflight request = true)
      (hlive : run.cache.live? run.now (ofRequest request).key = none)
      (hdecision : (ofRequest request).decision run.handler.policy = .ok allowance)
      (hlimit : run.now.nanos + run.handler.ttl.nanos ≤ Instant.limit)
      (hanswer : run.answer request = .ok (some (.ok ⟨allowance.headers, false⟩)))
      (hstep : run.step (.handle request) =
        { run with
          cache := (run.cache.lookup run.now (ofRequest request).key).2.put
            (ofRequest request).key
            ⟨allowance, run.now.advance run.handler.ttl⟩ })
  | lost (allowance : Allowance) (hpreflight : isPreflight request = true)
      (hlive : run.cache.live? run.now (ofRequest request).key = none)
      (hdecision : (ofRequest request).decision run.handler.policy = .ok allowance)
      (hlimit : Instant.limit < run.now.nanos + run.handler.ttl.nanos)
      (hanswer : run.answer request = .error .deadlineOutOfRange)
      (hstep : run.step (.handle request) = (run.lookup (ofRequest request).key).2)

section Outcome

variable (run : PreflightRun) {request : Http.Request}
variable {preflight : PreflightStep} {fault : ClockFault}

/-- The handling of a preflight is a step of the run that holds its parts. -/
theorem of_handlePreflight
    (hhandle : handlePreflight run.handler run.now request run.cache =
      .ok preflight) :
    run.answer request = .ok preflight.answer ∧
      run.step (.handle request) = { run with cache := preflight.cache } := by
  have hrun : run.handle request =
      .ok (preflight, { run with cache := preflight.cache }) := by
    rw [handle, hhandle]
    rfl
  exact ⟨by rw [answer, hrun]; rfl, by rw [step, hrun]⟩

theorem of_handlePreflight_error
    (hhandle : handlePreflight run.handler run.now request run.cache =
      .error fault) :
    run.answer request = .error fault ∧
      run.step (.handle request) = (run.lookup (ofRequest request).key).2 := by
  have hrun : run.handle request = .error fault := by
    rw [handle, hhandle]
    rfl
  exact ⟨by rw [answer, hrun]; rfl, by rw [step, hrun]⟩

end Outcome

theorem handled (run : PreflightRun) (request : Http.Request) :
    Handled run request := by
  cases hpreflight : isPreflight request with
  | false =>
      obtain ⟨hanswer, hstep⟩ := run.of_handlePreflight
        (handlePreflight_of_other run.handler run.now run.cache hpreflight)
      exact .other hpreflight hanswer hstep
  | true =>
      cases hlive : run.cache.live? run.now (ofRequest request).key with
      | some allowance =>
          obtain ⟨hanswer, hstep⟩ := run.of_handlePreflight
            (handlePreflight_of_live run.handler hpreflight hlive)
          exact .hit allowance hpreflight hlive hanswer hstep
      | none =>
          have hhandle := handlePreflight_of_forgotten run.handler hpreflight hlive
          cases hdecision : (ofRequest request).decision run.handler.policy with
          | error rejection =>
              rw [hdecision] at hhandle
              obtain ⟨hanswer, hstep⟩ := run.of_handlePreflight hhandle
              exact .rejected rejection hpreflight hlive hdecision hanswer hstep
          | ok allowance =>
              rw [hdecision] at hhandle
              dsimp only at hhandle
              rcases Nat.lt_or_ge Instant.limit
                  (run.now.nanos + run.handler.ttl.nanos) with hlimit | hlimit
              · rw [(Expiring.store_eq_error_iff _ run.now run.handler.ttl
                  (ofRequest request).key allowance .deadlineOutOfRange).mpr
                  hlimit] at hhandle
                obtain ⟨hanswer, hstep⟩ := run.of_handlePreflight_error hhandle
                exact .lost allowance hpreflight hlive hdecision hlimit hanswer hstep
              · rw [(Expiring.store_eq_ok_iff _ _ run.now run.handler.ttl
                  (ofRequest request).key allowance).mpr ⟨hlimit, rfl⟩] at hhandle
                obtain ⟨hanswer, hstep⟩ := run.of_handlePreflight hhandle
                exact .kept allowance hpreflight hlive hdecision hlimit hanswer hstep

end PreflightRun

/-! ## The past of a run -/

/-- A request with what it was answered and when. -/
structure Asked where
  time : Instant
  request : Http.Request
  outcome : Except ClockFault (Option (Except GatewayError PreflightResponse))

namespace Asked

/-- An allowed preflight that was not answered from the cache. -/
def isMiss (asked : Asked) : Bool :=
  match asked.outcome with
  | .ok (some (.ok response)) => !response.cacheHit
  | _ => false

def key (asked : Asked) : PreflightKey := (ofRequest asked.request).key

end Asked

/-- There was a miss with this key less than a lifetime ago. -/
def Remembered (past : List Asked) (ttl : Duration) (now : Instant)
    (key : PreflightKey) : Prop :=
  ∃ asked ∈ past, asked.isMiss ∧ asked.key = key ∧
    now.nanos < asked.time.nanos + ttl.nanos

instance (past : List Asked) (ttl : Duration) (now : Instant) (key : PreflightKey) :
    Decidable (Remembered past ttl now key) :=
  inferInstanceAs (Decidable (∃ asked ∈ past, _))

/-- What the past and the policy let expect. -/
def expected (handler : PreflightHandler) (past : List Asked) (now : Instant)
    (request : Http.Request) :
    Except ClockFault (Option (Except GatewayError PreflightResponse)) :=
  match plainAnswer handler.policy request with
  | none => .ok none
  | some (.error error) => .ok (some (.error error))
  | some (.ok fields) =>
      if Remembered past handler.ttl now (ofRequest request).key then
        .ok (some (.ok ⟨fields, true⟩))
      else if Instant.limit < now.nanos + handler.ttl.nanos then
        .error .deadlineOutOfRange
      else .ok (some (.ok ⟨fields, false⟩))

namespace PreflightRun

/-- What an event adds to the past. -/
def told (run : PreflightRun) : Event → List Asked
  | .handle request => [⟨run.now, request, run.answer request⟩]
  | _ => []

def asked (run : PreflightRun) (events : List Event) : List Asked :=
  chronicle step told run events

theorem after_concat (run : PreflightRun) (events : List Event) (event : Event) :
    run.after (events ++ [event]) = (run.after events).step event := by
  simp [after]

theorem asked_concat (run : PreflightRun) (events : List Event) (event : Event) :
    run.asked (events ++ [event]) =
      run.asked events ++ (run.after events).told event :=
  chronicle_concat step told run events event

/-- The cache of a run has the misses of the past, and nothing else. -/
structure Reflects (run : PreflightRun) (past : List Asked)
    (log : List (Stored PreflightKey Allowance)) : Prop where
  recalls : run.cache.Recalls log run.handler.ttl run.now
  ascending : Stored.Ascending log
  notAfter : ∀ stored ∈ log, stored.time.nanos ≤ run.now.nanos
  misses : log.map (fun stored => (stored.key, stored.time)) =
    (past.filter Asked.isMiss).map fun asked => (asked.key, asked.time)
  allowed : run.cache.Holds fun key allowance => ∃ request,
    (ofRequest request).key = key ∧
      (ofRequest request).decision run.handler.policy = .ok allowance

variable {run : PreflightRun} {past : List Asked}
variable {log : List (Stored PreflightKey Allowance)}

theorem reflects_ofHandler (handler : PreflightHandler) (every : Option Duration) :
    (ofHandler handler every).Reflects [] [] where
  recalls := Expiring.recalls_empty
  ascending := List.Pairwise.nil
  notAfter := by simp
  misses := rfl
  allowed := Expiring.holds_empty

/-- A cache that was looked into or purged is as good as before. -/
theorem Reflects.withCache (hreflects : run.Reflects past log)
    {cache : PreflightCache}
    (hrecalls : cache.Recalls log run.handler.ttl run.now)
    (hallowed : cache.Holds fun key allowance => ∃ request,
      (ofRequest request).key = key ∧
        (ofRequest request).decision run.handler.policy = .ok allowance) :
    { run with cache := cache }.Reflects past log where
  recalls := hrecalls
  ascending := hreflects.ascending
  notAfter := hreflects.notAfter
  misses := hreflects.misses
  allowed := hallowed

theorem Reflects.lookup (hreflects : run.Reflects past log) (key : PreflightKey) :
    (run.lookup key).2.Reflects past log :=
  hreflects.withCache (hreflects.recalls.lookup key)
    (hreflects.allowed.lookup run.now key)

theorem Reflects.purge (hreflects : run.Reflects past log) :
    run.purge.2.Reflects past log :=
  hreflects.withCache hreflects.recalls.purge (hreflects.allowed.keep _)

theorem Reflects.advance (hreflects : run.Reflects past log) (span : Duration) :
    (run.advance span).Reflects past log where
  recalls :=
    (hreflects.recalls.later (Nat.le_add_right _ _)).sweep run.sweeper
  ascending := hreflects.ascending
  notAfter := fun stored hstored =>
    Nat.le_trans (hreflects.notAfter stored hstored) (Nat.le_add_right _ _)
  misses := hreflects.misses
  allowed := hreflects.allowed.sweep run.sweeper _

/-- An answer that is no miss is nothing new. -/
theorem Reflects.concat (hreflects : run.Reflects past log) {asked : Asked}
    (hmiss : asked.isMiss = false) : run.Reflects (past ++ [asked]) log :=
  { hreflects with
    misses := by simpa [List.filter_append, hmiss] using hreflects.misses }

theorem reflects_step (hreflects : run.Reflects past log) (event : Event) :
    ∃ grown, (run.step event).Reflects (past ++ run.told event) grown := by
  cases event with
  | wait span => exact ⟨log, by simpa [told, step] using hreflects.advance span⟩
  | purge => exact ⟨log, by simpa [told, step] using hreflects.purge⟩
  | handle request =>
      have hlookup := hreflects.lookup (ofRequest request).key
      rw [told]
      cases run.handled request with
      | other hother hanswer hstep =>
          rw [hanswer, hstep]
          exact ⟨log, hreflects.concat rfl⟩
      | hit allowance hpreflight hlive hanswer hstep =>
          rw [hanswer, hstep]
          exact ⟨log, hlookup.concat rfl⟩
      | rejected rejection hpreflight hlive hdecision hanswer hstep =>
          rw [hanswer, hstep]
          exact ⟨log, hlookup.concat rfl⟩
      | lost allowance hpreflight hlive hdecision hlimit hanswer hstep =>
          rw [hanswer, hstep]
          exact ⟨log, hlookup.concat rfl⟩
      | kept allowance hpreflight hlive hdecision hlimit hanswer hstep =>
          rw [hanswer, hstep]
          refine ⟨log ++ [⟨(ofRequest request).key, run.now, allowance⟩], ?_⟩
          exact
            { recalls := hlookup.recalls.store
                ((Expiring.store_eq_ok_iff _ _ _ _ _ _).mpr ⟨hlimit, rfl⟩)
              ascending := hreflects.ascending.concat hreflects.notAfter
              notAfter := by
                intro stored hstored
                rcases List.mem_append.mp hstored with hold | hnew
                · exact hreflects.notAfter stored hold
                · obtain rfl := List.mem_singleton.mp hnew
                  exact Nat.le_refl _
              misses := by
                simp [List.filter_append, hreflects.misses, Asked.isMiss, Asked.key]
              allowed := hlookup.allowed.put ⟨request, rfl, hdecision⟩ }

theorem reflects_after {start : PreflightRun} (hstart : start.Reflects [] [])
    (events : List Event) :
    ∃ log, (start.after events).Reflects (start.asked events) log := by
  induction events using List.reverseRecOn with
  | nil => exact ⟨[], hstart⟩
  | append_singleton events event ih =>
      obtain ⟨log, hreflects⟩ := ih
      rw [after_concat, asked_concat]
      exact reflects_step hreflects event

/-- A request finds what the policy says, if there was a miss less than a
lifetime ago. -/
theorem Reflects.live?_eq_some_iff (hreflects : run.Reflects past log)
    (request : Http.Request) (allowance : Allowance) :
    run.cache.live? run.now (ofRequest request).key = some allowance ↔
      Remembered past run.handler.ttl run.now (ofRequest request).key ∧
        (ofRequest request).decision run.handler.policy = .ok allowance := by
  have hremembered :
      (run.cache.live? run.now (ofRequest request).key).isSome ↔
        Remembered past run.handler.ttl run.now (ofRequest request).key := by
    rw [hreflects.recalls run.now (Nat.le_refl _),
      Stored.current?_isSome_iff hreflects.ascending]
    have hpairs : ∀ key time,
        (∃ stored ∈ log, stored.key = key ∧ stored.time = time) ↔
          ∃ asked ∈ past, asked.isMiss ∧ asked.key = key ∧ asked.time = time := by
      intro key time
      have hmem : (key, time) ∈ log.map (fun stored => (stored.key, stored.time)) ↔
          (key, time) ∈ (past.filter Asked.isMiss).map
            fun asked => (asked.key, asked.time) := by
        rw [hreflects.misses]
      simpa [and_assoc] using hmem
    constructor
    · rintro ⟨stored, hmem, hkey, hyoung⟩
      obtain ⟨asked, hasked, hmiss, hsame, htime⟩ :=
        (hpairs _ _).mp ⟨stored, hmem, hkey, rfl⟩
      exact ⟨asked, hasked, hmiss, hsame, by rw [htime]; exact hyoung⟩
    · rintro ⟨asked, hasked, hmiss, hsame, hyoung⟩
      obtain ⟨stored, hmem, hkey, htime⟩ :=
        (hpairs _ _).mpr ⟨asked, hasked, hmiss, hsame, rfl⟩
      exact ⟨stored, hmem, hkey, by rw [Stored.isYoung, htime]; exact hyoung⟩
  have hdecision : ∀ found,
      run.cache.live? run.now (ofRequest request).key = some found →
        (ofRequest request).decision run.handler.policy = .ok found := by
    intro found hfound
    obtain ⟨dated, hentry, hvalue⟩ := Expiring.dated?_of_live? hfound
    obtain ⟨other, hkey, hallowed⟩ := hreflects.allowed _ dated hentry
    rw [← hvalue]
    exact PreflightQuestion.decision_eq_ok_of_key hkey hallowed
  rw [← hremembered]
  constructor
  · intro hlive
    exact ⟨by rw [hlive]; rfl, hdecision allowance hlive⟩
  · rintro ⟨hsome, hallowed⟩
    obtain ⟨found, hfound⟩ := Option.isSome_iff_exists.mp hsome
    have hsame := (hdecision found hfound).symm.trans hallowed
    rw [hfound, Except.ok.inj hsame]

theorem Reflects.answer_eq (hreflects : run.Reflects past log)
    (request : Http.Request) :
    run.answer request = expected run.handler past run.now request := by
  have hlive := hreflects.live?_eq_some_iff request
  have hforgotten : ∀ allowance,
      run.cache.live? run.now (ofRequest request).key = none →
        (ofRequest request).decision run.handler.policy = .ok allowance →
          ¬ Remembered past run.handler.ttl run.now (ofRequest request).key := by
    intro allowance hnone hdecision hremembered
    have hsome := (hlive allowance).mpr ⟨hremembered, hdecision⟩
    rw [hnone] at hsome
    simp at hsome
  cases run.handled request with
  | other hother hanswer hstep => simp [hanswer, expected, plainAnswer, hother]
  | hit allowance hpreflight hfound hanswer hstep =>
      obtain ⟨hremembered, hdecision⟩ := (hlive allowance).mp hfound
      simp [hanswer, expected, plainAnswer, hpreflight, hdecision, hremembered]
  | rejected rejection hpreflight hnone hdecision hanswer hstep =>
      simp [hanswer, expected, plainAnswer, hpreflight, hdecision]
  | kept allowance hpreflight hnone hdecision hlimit hanswer hstep =>
      simp [hanswer, expected, plainAnswer, hpreflight, hdecision,
        hforgotten allowance hnone hdecision, Nat.not_lt.mpr hlimit]
  | lost allowance hpreflight hnone hdecision hlimit hanswer hstep =>
      simp [hanswer, expected, plainAnswer, hpreflight, hdecision,
        hforgotten allowance hnone hdecision, hlimit]

/-! ## Without purges and sweeps -/

/-- Two runs with one past and one clock that reflect it answer the same. -/
structure Alike (left right : PreflightRun) : Prop where
  handler : left.handler = right.handler
  now : left.now = right.now
  reflects : ∃ past log other, left.Reflects past log ∧ right.Reflects past other

theorem Alike.told_eq {left right : PreflightRun} (halike : left.Alike right)
    (event : Event) : left.told event = right.told event := by
  obtain ⟨hhandler, hnow, past, log, other, hleft, hright⟩ := halike
  cases event with
  | handle request =>
      rw [told, told, hleft.answer_eq, hright.answer_eq, hhandler, hnow]
  | _ => rfl

theorem step_handler (run : PreflightRun) (event : Event) :
    (run.step event).handler = run.handler := by
  cases event with
  | handle request => cases run.handled request <;> simp_all [lookup]
  | _ => rfl

theorem step_handle_now (run : PreflightRun) (request : Http.Request) :
    (run.step (.handle request)).now = run.now := by
  cases run.handled request <;> simp_all [lookup]

theorem Alike.step {left right : PreflightRun} (halike : left.Alike right)
    (event : Event) : (left.step event).Alike (right.step event) := by
  have htold := halike.told_eq event
  obtain ⟨hhandler, hnow, past, log, other, hleft, hright⟩ := halike
  refine ⟨by rw [step_handler, step_handler, hhandler], ?_, ?_⟩
  · cases event with
    | handle request => rw [step_handle_now, step_handle_now, hnow]
    | wait span =>
        change left.now.advance span = right.now.advance span
        rw [hnow]
    | purge => exact hnow
  · obtain ⟨grown, hleft⟩ := reflects_step hleft event
    obtain ⟨grown', hright⟩ := reflects_step hright event
    exact ⟨past ++ left.told event, grown, grown', hleft, htold ▸ hright⟩

theorem Alike.purge {left right : PreflightRun} (halike : left.Alike right) :
    left.Alike right.purge.2 := by
  obtain ⟨hhandler, hnow, past, log, other, hleft, hright⟩ := halike
  exact ⟨hhandler, hnow, past, log, other, hleft, hright.purge⟩

/-- Without its sweeps and purges a run has the same past. -/
theorem asked_without_purges (handler : PreflightHandler) (every : Option Duration)
    (events : List Event) :
    (ofHandler handler none).asked (events.filter (· ≠ .purge)) =
        (ofHandler handler every).asked events ∧
      ((ofHandler handler none).after (events.filter (· ≠ .purge))).Alike
        ((ofHandler handler every).after events) := by
  induction events using List.reverseRecOn with
  | nil =>
      exact ⟨rfl, rfl, rfl, [], [], [], reflects_ofHandler handler none,
        reflects_ofHandler handler every⟩
  | append_singleton events event ih =>
      obtain ⟨hasked, halike⟩ := ih
      rw [List.filter_append]
      by_cases hpurge : event = .purge
      · subst hpurge
        have hnone : [Event.purge].filter (· ≠ .purge) = [] := rfl
        rw [hnone, List.append_nil, asked_concat, after_concat]
        exact ⟨hasked.trans (List.append_nil _).symm, halike.purge⟩
      · have hkept : [event].filter (· ≠ .purge) = [event] := by simp [hpurge]
        rw [hkept, asked_concat, asked_concat, after_concat, after_concat]
        exact ⟨by rw [hasked, halike.told_eq], halike.step event⟩

theorem Reflects.dated?_of_rejected (hreflects : run.Reflects past log)
    {request : Http.Request} {rejection : Rejection}
    (hrejected : (ofRequest request).decision run.handler.policy =
      .error rejection) : run.cache.dated? (ofRequest request).key = none := by
  cases hentry : run.cache.dated? (ofRequest request).key with
  | none => rfl
  | some dated =>
      obtain ⟨other, hkey, hallowed⟩ := hreflects.allowed _ dated hentry
      have := PreflightQuestion.decision_eq_ok_of_key hkey hallowed
      rw [hrejected] at this
      simp at this

theorem after_handler (run : PreflightRun) (events : List Event) :
    (run.after events).handler = run.handler :=
  foldl_unchanged step_handler run events

end PreflightRun

/-- The hit mark tells what the expectation depends on. -/
theorem cacheHit_iff_of_expected {handler : PreflightHandler} {past : List Asked}
    {now : Instant} {request : Http.Request} {response : PreflightResponse}
    (hexpected : expected handler past now request = .ok (some (.ok response))) :
    response.cacheHit = true ↔
      Remembered past handler.ttl now (ofRequest request).key := by
  unfold expected at hexpected
  split at hexpected
  next => simp at hexpected
  next => simp at hexpected
  next fields hplain =>
    split at hexpected
    next hremembered =>
      obtain rfl : (⟨fields, true⟩ : PreflightResponse) = response := by
        simpa using hexpected
      simp [hremembered]
    next hforgotten =>
      split at hexpected
      next => simp at hexpected
      next =>
        obtain rfl : (⟨fields, false⟩ : PreflightResponse) = response := by
          simpa using hexpected
        simp [hforgotten]

theorem content_of_expected {handler : PreflightHandler} {past : List Asked}
    {now : Instant} {request : Http.Request}
    {answer : Option (Except GatewayError PreflightResponse)}
    (hexpected : expected handler past now request = .ok answer) :
    content answer = plainAnswer handler.policy request := by
  unfold expected at hexpected
  split at hexpected
  next hplain =>
    obtain rfl := Except.ok.inj hexpected
    exact hplain.symm
  next error hplain =>
    obtain rfl := Except.ok.inj hexpected
    exact hplain.symm
  next fields hplain =>
    rw [hplain]
    split at hexpected
    next =>
      obtain rfl := Except.ok.inj hexpected
      rfl
    next =>
      split at hexpected
      next => simp at hexpected
      next =>
        obtain rfl := Except.ok.inj hexpected
        rfl

theorem expected_eq_error_iff {handler : PreflightHandler} {past : List Asked}
    {now : Instant} {request : Http.Request} :
    (∃ fault, expected handler past now request = .error fault) ↔
      (∃ fields, plainAnswer handler.policy request = some (.ok fields)) ∧
        ¬ Remembered past handler.ttl now (ofRequest request).key ∧
          Instant.limit < now.nanos + handler.ttl.nanos := by
  unfold expected
  split
  next hplain => simp [hplain]
  next error hplain => simp [hplain]
  next fields hplain =>
    by_cases hremembered :
        Remembered past handler.ttl now (ofRequest request).key
    · simp [hplain, hremembered]
    · by_cases hlimit : Instant.limit < now.nanos + handler.ttl.nanos
      · rw [if_neg hremembered, if_pos hlimit]
        exact ⟨fun _ => ⟨⟨fields, hplain⟩, hremembered, hlimit⟩, fun _ => ⟨_, rfl⟩⟩
      · simp [hplain, hremembered, hlimit]

/-- A handler answers a request exactly as its policy does without a cache, except
that an allowed preflight has no answer if it is not remembered and its deadline
cannot be shown by the clock.  An answer is marked as a hit exactly when an
allowed preflight with its key was answered without the cache less than a
lifetime ago.  Purges and sweeps change no answer, and the key of a rejected
preflight is never in the cache. -/
theorem answers_as_without_cache (config : Config.Cors) (every : Option Duration)
    (events : List Event) (request : Http.Request) :
    let handler := PreflightHandler.ofConfig config
    let start := PreflightRun.ofHandler handler every
    let run := start.after events
    let past := start.asked events
    let key := (ofRequest request).key
    (∀ answer, run.answer request = .ok answer →
      content answer = plainAnswer handler.policy request ∧
        ∀ response, answer = some (.ok response) →
          (response.cacheHit = true ↔
            Remembered past handler.ttl run.now key)) ∧
    ((∃ fault, run.answer request = .error fault) ↔
      (∃ fields, plainAnswer handler.policy request = some (.ok fields)) ∧
        ¬ Remembered past handler.ttl run.now key ∧
          Instant.limit < run.now.nanos + handler.ttl.nanos) ∧
    (PreflightRun.ofHandler handler none).asked (events.filter (· ≠ .purge)) =
      past ∧
    ∀ rejection, (ofRequest request).decision handler.policy = .error rejection →
      run.cache.dated? key = none := by
  intro handler start run past key
  obtain ⟨log, hreflects⟩ := PreflightRun.reflects_after
    (PreflightRun.reflects_ofHandler handler every) events
  have hhandler : run.handler = handler := start.after_handler events
  have hexpected : run.answer request = expected handler past run.now request := by
    rw [← hhandler]
    exact hreflects.answer_eq request
  rw [hexpected]
  refine ⟨?_, expected_eq_error_iff,
    (PreflightRun.asked_without_purges handler every events).1, ?_⟩
  · intro answer hanswer
    refine ⟨content_of_expected hanswer, ?_⟩
    rintro response rfl
    exact cacheHit_iff_of_expected hanswer
  · intro rejection hrejected
    rw [← hhandler] at hrejected
    exact hreflects.dated?_of_rejected hrejected

/-- Allowed preflights are remembered for the longest lifetime in whole seconds. -/
def lastingCors : Config.Cors :=
  { allowedOrigins := ["https://app.example.com"]
    preflightCacheTtl := .ofSeconds 18446744073709551615 }

/-- A lifetime that may be configured and that no deadline can be computed for: what the
policy allows has no answer. -/
theorem lasting_preflight_unanswered :
    let request : Http.Request :=
      ⟨"OPTIONS", "/api/orders", none, ⟨[("origin", "https://app.example.com"),
        ("access-control-request-method", "GET")]⟩⟩
    Config.Gateway.validate { cors := lastingCors } = .ok () ∧
      (∃ fields, plainAnswer (Policy.ofConfig lastingCors) request = some (.ok fields)) ∧
      (PreflightRun.ofHandler (.ofConfig lastingCors) none).answer request =
        .error .deadlineOutOfRange := by
  exact ⟨rfl, ⟨_, rfl⟩, by decide⟩

end EdgeGateway.Cors
