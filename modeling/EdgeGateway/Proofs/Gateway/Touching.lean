import EdgeGateway.Proofs.Cors.Transparency
import EdgeGateway.Proofs.Gateway.Handling
import EdgeGateway.Proofs.Version.Recall

/-!
# What a request touches

A request is decided about by four parts, each with a state of its own.  It reads
the active region, and of the remembered preferences and preflights it touches at
most those under its own keys.  A preflight is answered or refused and leaves the
routes alone; any other request goes along the routes and leaves the preflights
alone.

There is no decision if something would have to be remembered beyond the last
instant of the clock, and only then.
-/

namespace EdgeGateway

namespace Expiring

variable {Key Value : Type} [DecidableEq Key]

theorem dated?_lookup_of_ne (cache : Expiring Key Value) (now : Instant)
    {key other : Key} (hother : other ≠ key) :
    (cache.lookup now key).2.dated? other = cache.dated? other := by
  rcases cache.lookup_snd now key with h | ⟨h, -⟩
  · rw [h]
  · rw [h, dated?_erase, if_neg hother]

theorem dated?_put_of_ne (cache : Expiring Key Value) (dated : Dated Value)
    {key other : Key} (hother : other ≠ key) :
    (cache.put key dated).dated? other = cache.dated? other := by
  rw [dated?_put, if_neg hother]

/-- A look-up keeps the value under its key, unless that has expired. -/
theorem dated?_lookup_self (cache : Expiring Key Value) (now : Instant) (key : Key) :
    (cache.lookup now key).2.dated? key = cache.dated? key ∨
      (cache.lookup now key).2.dated? key = none ∧
        ∀ dated, cache.dated? key = some dated →
          dated.expiresAt.nanos ≤ now.nanos := by
  rcases cache.lookup_snd now key with h | ⟨h, hdead⟩
  · exact Or.inl (by rw [h])
  · exact Or.inr ⟨by rw [h, dated?_erase, if_pos rfl], hdead⟩

theorem expired_of_dead {cache : Expiring Key Value} {now : Instant} {key : Key}
    (hdead : cache.live? now key = none) :
    ∀ dated, cache.dated? key = some dated → dated.expiresAt.nanos ≤ now.nanos := by
  intro dated hentry
  rw [live?_eq, hentry, Option.bind_some] at hdead
  split at hdead
  next => simp at hdead
  next hexpired => exact Nat.not_lt.mp hexpired

end Expiring

namespace Version.PreferenceRun

variable (run : PreferenceRun) {tenantId : Option String} {path : String}

theorem answer_eq_error_iff_resolve {fault : ClockFault} :
    run.answer tenantId path = .error fault ↔
      Version.resolve run.settings run.now tenantId path run.store run.cache =
        .error fault := by
  cases hresolve : Version.resolve run.settings run.now tenantId path run.store
      run.cache with
  | error other => simp [(run.of_resolve_error hresolve).1]
  | ok resolved => simp [(run.of_resolve hresolve).1]

theorem dated?_resolve_of_ne {key : Store.PreferenceKey}
    (hother : key? tenantId path ≠ some key) :
    (run.step (.resolve tenantId path)).cache.dated? key = run.cache.dated? key := by
  have hlookup : ∀ found count, key? tenantId path = some found →
      (run.lookedUp found count).cache.dated? key = run.cache.dated? key := by
    intro found count hfound
    exact run.cache.dated?_lookup_of_ne run.now
      fun hsame => hother (hsame ▸ hfound)
  cases run.resolved tenantId path with
  | keyless hkey hanswer hstep => rw [hstep]
  | hit found preference hkey hlive hanswer hcounted hstep =>
      rw [hstep, hlookup _ _ hkey]
  | failed found error count hcount hkey hlive hplain hanswer hstep =>
      rw [hstep, hlookup _ _ hkey]
  | kept found preference count hcount hkey hlive hplain hlimit hanswer hcounted
      hstep =>
      have hne : key ≠ found := by
        rintro rfl
        exact hother hkey
      rw [hstep, Expiring.dated?_put_of_ne _ _ hne]
      exact hlookup found count hkey
  | lost found preference count hcount hkey hlive hplain hlimit hanswer hcounted
      hstep =>
      rw [hstep, hlookup _ _ hkey]

end Version.PreferenceRun

namespace Cors.PreflightRun

variable (run : PreflightRun) {request : Http.Request}

open PreflightQuestion (ofRequest)

theorem answer_eq_error_iff_handlePreflight {fault : ClockFault} :
    run.answer request = .error fault ↔
      handlePreflight run.handler run.now request run.cache = .error fault := by
  cases hhandle : handlePreflight run.handler run.now request run.cache with
  | error other => simp [(run.of_handlePreflight_error hhandle).1]
  | ok preflight => simp [(run.of_handlePreflight hhandle).1]

theorem dated?_handle_of_ne {key : PreflightKey}
    (hother : key ≠ (ofRequest request).key) :
    (run.step (.handle request)).cache.dated? key = run.cache.dated? key := by
  have hlookup : (run.lookup (ofRequest request).key).2.cache.dated? key =
      run.cache.dated? key := run.cache.dated?_lookup_of_ne run.now hother
  cases run.handled request with
  | other hnone hanswer hstep => rw [hstep]
  | kept allowance hpreflight hlive hdecision hlimit hanswer hstep =>
      rw [hstep, Expiring.dated?_put_of_ne _ _ hother]
      exact hlookup
  | hit allowance hpreflight hlive hanswer hstep => rw [hstep, hlookup]
  | rejected rejection hpreflight hlive hdecision hanswer hstep =>
      rw [hstep, hlookup]
  | lost allowance hpreflight hlive hdecision hlimit hanswer hstep =>
      rw [hstep, hlookup]

end Cors.PreflightRun

namespace Gateway

open Cors (isPreflight)
open Cors.PreflightQuestion (ofRequest)

/-! ## The parts of a gateway -/

def tenantOf (plan : Plan) (request : Http.Request) : Option String :=
  (Http.Context.ofRequest request plan.settings.tenantHeader "").tenantId

/-- The look-up of preferences, as it stands. -/
def State.preferenceRun (state : State) (plan : Plan) : Version.PreferenceRun where
  settings := plan.versions
  store := state.store
  now := state.now
  cache := state.preferences

/-- The handler of preflights, as it stands. -/
def State.preflightRun (state : State) (plan : Plan) : Cors.PreflightRun where
  handler := plan.preflight
  now := state.now
  cache := state.preflights

section Parts

variable {plan : Plan} {freshId : String} {rollBelow : Nat → Nat}
variable {request : Http.Request} {state : State} {handled : Handled}
variable {resolved : Version.ResolveStep} {preflight : Cors.PreflightStep}

theorem resolved_spec (hresolve : lookUpVersion plan freshId request state =
      .ok resolved) :
    (state.preferenceRun plan).answer (tenantOf plan request) request.path =
        .ok resolved.preference ∧
      (state.preferenceRun plan).step
          (.resolve (tenantOf plan request) request.path) =
        { state.preferenceRun plan with
          cache := resolved.cache
          store := resolved.store } :=
  (state.preferenceRun plan).of_resolve hresolve

theorem preflight_spec
    (hpreflight : Cors.handlePreflight plan.preflight state.now request
      state.preflights = .ok preflight) :
    (state.preflightRun plan).answer request = .ok preflight.answer ∧
      (state.preflightRun plan).step (.handle request) =
        { state.preflightRun plan with cache := preflight.cache } :=
  (state.preflightRun plan).of_handlePreflight hpreflight

/-- A preflight has an answer, and nothing else has. -/
theorem isPreflight_of_answer
    (hpreflight : Cors.handlePreflight plan.preflight state.now request
      state.preflights = .ok preflight) :
    isPreflight request = preflight.answer.isSome := by
  have hanswer := (preflight_spec hpreflight).1
  cases (state.preflightRun plan).handled request with
  | other hother hnone =>
      obtain hsame := Except.ok.inj (hnone.symm.trans hanswer)
      rw [hother, ← hsame]
      rfl
  | hit _ hyes _ hsome | rejected _ hyes _ _ hsome | kept _ hyes _ _ _ hsome =>
      obtain hsame := Except.ok.inj (hsome.symm.trans hanswer)
      rw [hyes, ← hsame]
      rfl
  | lost _ _ _ _ _ hfault =>
      rw [hfault] at hanswer
      simp at hanswer

end Parts

/-! ## What changes under the keys of a request -/

/-- What becomes of the remembered answer to a preflight: it stays, it is dropped
because it has expired, or an allowed answer takes the place of none that lived. -/
inductive AnswerChange (plan : Plan) (request : Http.Request) (now : Instant)
    (decision : Decision) (before after : Option (Dated Cors.Allowance)) : Prop where
  | kept (hsame : after = before)
  | dropped (dated : Dated Cors.Allowance) (hbefore : before = some dated)
      (hexpired : dated.expiresAt.nanos ≤ now.nanos) (hafter : after = none)
  | added (allowance : Cors.Allowance)
      (hallowed : (ofRequest request).decision plan.preflight.policy = .ok allowance)
      (hdecision : decision = .respond ⟨allowance.headers, false⟩)
      (hexpired : ∀ dated, before = some dated → dated.expiresAt.nanos ≤ now.nanos)
      (hafter : after = some ⟨allowance, now.advance plan.preflight.ttl⟩)

/-- What a preflight touches. -/
structure TouchesAsPreflight (plan : Plan) (request : Http.Request) (state : State)
    (handled : Handled) : Prop where
  decision : (∃ response, handled.decision = .respond response) ∨
    ∃ error, handled.decision = .reject error ∧ error.status = 403
  routes : handled.state.cache = state.cache
  loads : handled.state.store.routeLoads = state.store.routeLoads
  others : ∀ key, key ≠ (ofRequest request).key →
    handled.state.preflights.dated? key = state.preflights.dated? key
  own : AnswerChange plan request state.now handled.decision
    (state.preflights.dated? (ofRequest request).key)
    (handled.state.preflights.dated? (ofRequest request).key)

/-- What a request touches that is no preflight. -/
structure TouchesAsRouted (request : Http.Request) (state : State)
    (handled : Handled) : Prop where
  decision : (∃ sent, handled.decision = .forward sent) ∨
    handled.decision = .reject (.noRoute request.method request.path)
  preflights : handled.state.preflights = state.preflights

/-- What a request touches. -/
structure Touches (plan : Plan) (request : Http.Request) (state : State)
    (handled : Handled) : Prop where
  failover : handled.state.failover = state.failover
  preferences : ∀ key, Version.key? (tenantOf plan request) request.path ≠ some key →
    handled.state.preferences.dated? key = state.preferences.dated? key
  preflight : isPreflight request = true →
    TouchesAsPreflight plan request state handled
  routed : isPreflight request = false → TouchesAsRouted request state handled

section Touching

variable {plan : Plan} {freshId : String} {rollBelow : Nat → Nat}
variable {request : Http.Request} {state : State} {handled : Handled}
variable {resolved : Version.ResolveStep} {preflight : Cors.PreflightStep}

theorem preferences_of_resolve
    (hresolve : lookUpVersion plan freshId request state = .ok resolved)
    {key : Store.PreferenceKey}
    (hother : Version.key? (tenantOf plan request) request.path ≠ some key) :
    resolved.cache.dated? key = state.preferences.dated? key := by
  have hstep := (resolved_spec hresolve).2
  have hkept := (state.preferenceRun plan).dated?_resolve_of_ne hother
  rw [hstep] at hkept
  exact hkept

theorem preflights_of_other
    (hpreflight : Cors.handlePreflight plan.preflight state.now request
      state.preflights = .ok preflight)
    (hother : isPreflight request = false) : preflight.cache = state.preflights := by
  have hstep := (preflight_spec hpreflight).2
  cases (state.preflightRun plan).handled request with
  | other _ _ hsame =>
      rw [hsame] at hstep
      exact (congrArg Cors.PreflightRun.cache hstep).symm
  | hit _ hyes | rejected _ hyes | kept _ hyes | lost _ hyes => simp [hother] at hyes

theorem answerChange {answer : Except GatewayError Cors.PreflightResponse}
    (hpreflight : Cors.handlePreflight plan.preflight state.now request
      state.preflights = .ok preflight)
    (hanswer : preflight.answer = some answer) :
    AnswerChange plan request state.now (preflightDecision answer)
      (state.preflights.dated? (ofRequest request).key)
      (preflight.cache.dated? (ofRequest request).key) := by
  obtain ⟨hrun, hstep⟩ := preflight_spec hpreflight
  rw [hanswer] at hrun
  have hlookedUp : ∀ cache, cache =
      (state.preflights.lookup state.now (ofRequest request).key).2 →
        AnswerChange plan request state.now (preflightDecision answer)
          (state.preflights.dated? (ofRequest request).key)
          (cache.dated? (ofRequest request).key) := by
    rintro cache rfl
    rcases state.preflights.dated?_lookup_self state.now (ofRequest request).key with
      hsame | ⟨hnone, hexpired⟩
    · exact .kept hsame
    · cases hbefore : state.preflights.dated? (ofRequest request).key with
      | none => exact .kept hnone
      | some dated => exact .dropped dated rfl (hexpired dated hbefore) hnone
  cases (state.preflightRun plan).handled request with
  | other _ hnone =>
      rw [hnone] at hrun
      simp at hrun
  | hit allowance hyes hlive hsome hsame =>
      exact hlookedUp _ (congrArg Cors.PreflightRun.cache (hstep.symm.trans hsame))
  | rejected rejection hyes hlive hdecision hsome hsame =>
      exact hlookedUp _ (congrArg Cors.PreflightRun.cache (hstep.symm.trans hsame))
  | lost allowance hyes hlive hdecision hlimit hfault =>
      rw [hfault] at hrun
      simp at hrun
  | kept allowance hyes hlive hdecision hlimit hsome hsame =>
      rw [hsome] at hrun
      obtain rfl := Option.some.inj (Except.ok.inj hrun)
      have hcache := congrArg Cors.PreflightRun.cache (hstep.symm.trans hsame)
      refine .added allowance hdecision rfl (Expiring.expired_of_dead hlive) ?_
      rw [show preflight.cache = _ from hcache, Expiring.dated?_put, if_pos rfl]
      rfl

theorem status_of_answer {error : GatewayError}
    (hpreflight : Cors.handlePreflight plan.preflight state.now request
      state.preflights = .ok preflight)
    (hanswer : preflight.answer = some (.error error)) : error.status = 403 := by
  have hrun := (preflight_spec hpreflight).1
  rw [hanswer] at hrun
  cases (state.preflightRun plan).handled request with
  | rejected rejection hyes hlive hdecision hsome hsame =>
      rw [hsome] at hrun
      obtain rfl : GatewayError.policyRejection rejection.reason = error := by
        simpa using hrun
      rfl
  | _ => simp_all

theorem touchesAsPreflight {answer : Except GatewayError Cors.PreflightResponse}
    (hresolve : lookUpVersion plan freshId request state = .ok resolved)
    (hpreflight : Cors.handlePreflight plan.preflight state.now request
      state.preflights = .ok preflight)
    (hanswer : preflight.answer = some answer)
    (hstate : handled.state = afterTagging state resolved preflight)
    (hdecision : handled.decision = preflightDecision answer) :
    TouchesAsPreflight plan request state handled where
  decision := by
    cases answer with
    | ok response => exact Or.inl ⟨response, hdecision⟩
    | error error =>
        exact Or.inr ⟨error, hdecision, status_of_answer hpreflight hanswer⟩
  routes := by rw [hstate]; rfl
  loads := by
    obtain ⟨⟨count, -, hstore⟩, -⟩ := Version.resolve_spec hresolve
    rw [hstate, afterTagging, hstore]
    rfl
  others := by
    intro key hother
    have hkept := (state.preflightRun plan).dated?_handle_of_ne hother
    rw [(preflight_spec hpreflight).2] at hkept
    rw [hstate]
    exact hkept
  own := by
    rw [hstate, hdecision]
    exact answerChange hpreflight hanswer

theorem routedDecision_cases (plan : Plan) (rollBelow : Nat → Nat) (request : Http.Request)
    (context : Http.Context) (routes : List Route.Resolved) :
    (∃ sent, routedDecision plan rollBelow request context routes = .forward sent) ∨
      routedDecision plan rollBelow request context routes =
        .reject (.noRoute request.method request.path) := by
  unfold routedDecision
  cases Route.Match.find? request rollBelow routes with
  | some found => exact Or.inl ⟨_, rfl⟩
  | none => exact Or.inr rfl

theorem touches_of_handle
    (hhandle : handle plan freshId rollBelow request state = .ok handled) :
    Touches plan request state handled := by
  cases handling hhandle with
  | preflight resolved preflight answer hresolve hpreflight hanswer hcontext hstate
      hdecision =>
      have hyes : isPreflight request = true := by
        rw [isPreflight_of_answer hpreflight, hanswer]
        rfl
      refine ⟨by rw [hstate]; rfl, ?_, ?_, fun hno => by simp [hyes] at hno⟩
      · intro key hother
        rw [hstate]
        exact preferences_of_resolve hresolve hother
      · intro _
        exact touchesAsPreflight hresolve hpreflight hanswer hstate hdecision
  | routed resolved preflight hresolve hpreflight hanswer hcontext hstate hdecision =>
      have hno : isPreflight request = false := by
        rw [isPreflight_of_answer hpreflight, hanswer]
        rfl
      refine ⟨by rw [hstate]; rfl, ?_, fun hyes => by simp [hno] at hyes, ?_⟩
      · intro key hother
        rw [hstate]
        exact preferences_of_resolve hresolve hother
      · intro _
        refine ⟨?_, ?_⟩
        · rw [hdecision]
          exact routedDecision_cases plan rollBelow request handled.context _
        · rw [hstate]
          exact preflights_of_other hpreflight hno

end Touching

/-! ## Requests without a decision -/

/-- What the store says of a preference would have to be kept for longer than the
clock can show. -/
def LosesPreference (plan : Plan) (request : Http.Request) (state : State) : Prop :=
  ∃ key preference,
    Version.key? (tenantOf plan request) request.path = some key ∧
      state.preferences.live? state.now key = none ∧
      Version.plainLookup plan.versions.namespaces state.store key = .ok preference ∧
      Instant.limit < state.now.nanos + plan.versions.ttl.nanos

/-- An allowed answer would have to be kept for longer than the clock can show. -/
def LosesAllowance (plan : Plan) (request : Http.Request) (state : State) : Prop :=
  isPreflight request = true ∧
    (∃ allowance,
      (ofRequest request).decision plan.preflight.policy = .ok allowance) ∧
    state.preflights.live? state.now (ofRequest request).key = none ∧
    Instant.limit < state.now.nanos + plan.preflight.ttl.nanos

section Fault

variable {plan : Plan} {freshId : String} {rollBelow : Nat → Nat}
variable {request : Http.Request} {state : State}

theorem losesPreference_iff (freshId : String) : LosesPreference plan request state ↔
    ∃ fault, lookUpVersion plan freshId request state = .error fault := by
  have hiff : ∀ fault, lookUpVersion plan freshId request state = .error fault ↔
      (state.preferenceRun plan).answer (tenantOf plan request) request.path =
        .error fault := fun fault =>
    (state.preferenceRun plan).answer_eq_error_iff_resolve.symm
  simp only [hiff]
  constructor
  · rintro ⟨key, preference, hkey, hlive, hplain, hlimit⟩
    refine ⟨.deadlineOutOfRange, ?_⟩
    rw [Version.PreferenceRun.answer_eq hkey]
    simp only [State.preferenceRun, hlive, hplain, Version.PreferenceRun.reply]
    exact if_neg (Nat.not_le.mpr hlimit)
  · rintro ⟨fault, hfault⟩
    cases (state.preferenceRun plan).resolved (tenantOf plan request)
        request.path with
    | lost key preference count hcount hkey hlive hplain hlimit =>
        exact ⟨key, preference, hkey, hlive, hplain, hlimit⟩
    | _ => simp_all

theorem losesAllowance_iff : LosesAllowance plan request state ↔
    ∃ fault, Cors.handlePreflight plan.preflight state.now request
      state.preflights = .error fault := by
  have hiff : ∀ fault, Cors.handlePreflight plan.preflight state.now request
      state.preflights = .error fault ↔
        (state.preflightRun plan).answer request = .error fault := fun fault =>
    (state.preflightRun plan).answer_eq_error_iff_handlePreflight.symm
  simp only [hiff]
  constructor
  · rintro ⟨hyes, ⟨allowance, hallowed⟩, hdead, hlimit⟩
    cases (state.preflightRun plan).handled request with
    | lost _ _ _ _ _ hfault => exact ⟨_, hfault⟩
    | _ => simp_all [State.preflightRun, Nat.not_le.mpr hlimit]
  · rintro ⟨fault, hfault⟩
    cases (state.preflightRun plan).handled request with
    | lost allowance hyes hlive hdecision hlimit =>
        exact ⟨hyes, ⟨allowance, hdecision⟩, hlive, hlimit⟩
    | _ => simp_all

theorem handle_eq_error_iff :
    (∃ fault, handle plan freshId rollBelow request state = .error fault) ↔
      LosesPreference plan request state ∨ LosesAllowance plan request state := by
  rw [losesPreference_iff freshId, losesAllowance_iff]
  constructor
  · rintro ⟨fault, hfault⟩
    unfold handle at hfault
    rcases bind_eq_error_iff.mp hfault with hresolve | ⟨resolved, -, hfault⟩
    · exact Or.inl ⟨fault, hresolve⟩
    rcases bind_eq_error_iff.mp hfault with hpreflight | ⟨preflight, -, hfault⟩
    · exact Or.inr ⟨fault, hpreflight⟩
    · simp only at hfault
      split at hfault <;> simp [pure, Except.pure] at hfault
  · intro hlost
    cases hhandle : handle plan freshId rollBelow request state with
    | error fault => exact ⟨fault, rfl⟩
    | ok handled =>
        -- a request with a decision has passed both parts
        exfalso
        cases handling hhandle with
        | preflight _ _ _ hresolve hpreflight | routed _ _ hresolve hpreflight =>
            rcases hlost with ⟨fault, hfault⟩ | ⟨fault, hfault⟩
            · simp [hresolve] at hfault
            · simp [hpreflight] at hfault

end Fault

/-- A request leaves the region alone and touches no entry but its own.  A
preflight is answered or refused with 403 and leaves the routes alone; it changes
its own entry only by dropping an expired answer or by adding an allowed one.  Any
other request is forwarded or has no route, and leaves the preflights alone.  All
requests have a decision, except those that would have to be remembered beyond
the last instant of the clock. -/
theorem request_touches_own_entries (plan : Plan) (freshId : String)
    (rollBelow : Nat → Nat) (request : Http.Request) (state : State) :
    (∀ handled, handle plan freshId rollBelow request state = .ok handled →
      Touches plan request state handled) ∧
    ((∃ fault, handle plan freshId rollBelow request state = .error fault) ↔
      LosesPreference plan request state ∨ LosesAllowance plan request state) :=
  ⟨fun _ => touches_of_handle, handle_eq_error_iff⟩

def boundlessConfig : Config.Gateway :=
  { cors :=
    { allowedOrigins := ["https://app.example.com"]
      preflightCacheTtl := .ofSeconds 18446744073709551615 } }

def appPreflight : Http.Request :=
  ⟨"OPTIONS", "/api/orders", none, ⟨[("origin", "https://app.example.com"),
    ("access-control-request-method", "GET")]⟩⟩

/-- A lifetime that may be configured leaves an allowed preflight undecided. -/
theorem boundless_lifetime_undecided :
    isPreflight appPreflight = true ∧
      ∀ handled, handle (.ofConfig boundlessConfig) "fresh" (fun _ => 0)
        appPreflight (.initial boundlessConfig {}) ≠ .ok handled := by
  refine ⟨by decide, ?_⟩
  intro handled hhandle
  have hnone : (handle (.ofConfig boundlessConfig) "fresh" (fun _ => 0)
      appPreflight (.initial boundlessConfig {})).toOption.isNone = true := by
    decide +kernel
  rw [hhandle] at hnone
  simp [Except.toOption] at hnone

end Gateway

end EdgeGateway
