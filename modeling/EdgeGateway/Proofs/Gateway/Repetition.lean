import EdgeGateway.Proofs.Gateway.Course
import EdgeGateway.Proofs.Gateway.VersionField

/-!
# A request that comes again

A request that was decided about while the stores were in reach leaves all behind
that is needed to decide about it again: its preference, be it that there is none,
and the routes.  As long as these live, and the routes are not invalidated, the
same request is given the same version and the same decision, and no store is
asked, whatever has become of the stores.  The contexts may differ in the region,
if it has moved, and in an id that was made up; the decisions may differ in what
comes of that, in the mark of a hit and in the variant that was drawn.

The answers to preflights may be forgotten in between, since they follow from the
policy.  Only if such an answer cannot be remembered anew is there no decision.
-/

namespace EdgeGateway

namespace Version.PreferenceRun

variable {tenantId : Option String} {path : String}
variable {key : Store.PreferenceKey} {preference : Option Store.Preference}

/-- What a store in reach says is remembered. -/
theorem dated?_resolve (run : PreferenceRun)
    (hkey : key? tenantId path = some key)
    (havailable : run.store.preferencesUnavailable = false)
    (hanswer : run.answer tenantId path = .ok preference) :
    ∃ dated, (run.step (.resolve tenantId path)).cache.dated? key = some dated ∧
      dated.value = preference := by
  cases run.resolved tenantId path with
  | keyless hnone => simp [hkey] at hnone
  | hit found known hfound hlive hknown hcounted hstep =>
      obtain rfl := Option.some.inj (hkey.symm.trans hfound)
      obtain rfl := Except.ok.inj (hknown.symm.trans hanswer)
      have hstill := run.cache.live?_lookup (Nat.le_refl run.now.nanos) key key
      rw [hlive] at hstill
      rw [hstep]
      exact Expiring.dated?_of_live? hstill
  | failed found error count hcount hfound hlive hplain =>
      simp [plainLookup, havailable] at hplain
  | kept found known count hcount hfound hlive hplain hlimit hknown hcounted hstep =>
      obtain rfl := Option.some.inj (hkey.symm.trans hfound)
      obtain rfl := Except.ok.inj (hknown.symm.trans hanswer)
      exact ⟨_, by rw [hstep, Expiring.dated?_put, if_pos rfl], rfl⟩
  | lost _ _ _ _ _ _ _ _ hfault => simp [hfault] at hanswer

end Version.PreferenceRun

namespace Gateway

open Cors (isPreflight)

/-- What is remembered for a request lives beyond an instant. -/
structure LivesBeyond (plan : Plan) (request : Http.Request) (state : State)
    (instant : Instant) : Prop where
  preference : ∀ key dated,
    Version.key? (tenantOf plan request) request.path = some key →
      state.preferences.dated? key = some dated →
        instant.nanos < dated.expiresAt.nanos
  routes : isPreflight request = false → ∀ slot, state.cache.current? = some slot →
    slot.isExpired state.cache.ttl instant = false

/-- The decisions about a request are the same but for the mark of a hit, the
variant that was drawn, and what the contexts put into them. -/
inductive SameDecision (plan : Plan) (request : Http.Request)
    (first second : Handled) : Prop where
  | responded (headers : Http.Headers) (firstHit secondHit : Bool)
      (hfirst : first.decision = .respond ⟨headers, firstHit⟩)
      (hsecond : second.decision = .respond ⟨headers, secondHit⟩)
  | rejected (error : GatewayError) (hfirst : first.decision = .reject error)
      (hsecond : second.decision = .reject error)
  | forwarded (route : Route.Resolved) (selection other : Route.Selection)
      (hselection : route.target.Leads selection) (hother : route.target.Leads other)
      (hfirst : first.decision = .forward
        (forwardRequest plan.settings first.context request
          (.ofSelection request route selection)))
      (hsecond : second.decision = .forward
        (forwardRequest plan.settings second.context request
          (.ofSelection request route other)))

/-- A request that came in one state is decided about in a later one as before,
and no store is asked. -/
structure Repeats (plan : Plan) (request : Http.Request) (state later : State)
    (first second : Handled) : Prop where
  store : second.state.store = later.store
  version : second.context.effectiveVersion = first.context.effectiveVersion
  tenant : second.context.tenantId = first.context.tenantId
  region : later.failover.currentRegion plan.failover =
      state.failover.currentRegion plan.failover →
    second.context.region = first.context.region
  correlationId : ∀ id, request.header? requestIdHeader = some id → id ≠ "" →
    second.context.correlationId = first.context.correlationId
  decision : SameDecision plan request first second

section Version

variable {plan : Plan} {freshId : String} {request : Http.Request}
variable {state later : State} {resolved : Version.ResolveStep}

/-- A preference that is still remembered is given again. -/
theorem version_again
    (hresolve : lookUpVersion plan freshId request state = .ok resolved)
    (hlive : ∀ key, Version.key? (tenantOf plan request) request.path = some key →
      later.preferences.live? later.now key = some resolved.preference)
    (secondId : String) :
    ∃ again, lookUpVersion plan secondId request later = .ok again ∧
      again.preference = resolved.preference ∧ again.store = later.store := by
  have hkept : ¬ LosesPreference plan request later := by
    rintro ⟨key, -, hkey, hdead, -⟩
    simp [hlive key hkey] at hdead
  cases hagain : lookUpVersion plan secondId request later with
  | error fault => exact absurd ((losesPreference_iff secondId).mpr ⟨fault, hagain⟩) hkept
  | ok again =>
      obtain ⟨hanswer, hstep⟩ := resolved_spec hagain
      have hstore := congrArg Version.PreferenceRun.store hstep
      refine ⟨again, rfl, ?_⟩
      cases hkey : Version.key? (tenantOf plan request) request.path with
      | none =>
          obtain ⟨hnone, hsame⟩ := (later.preferenceRun plan).resolve_of_keyless hkey
          obtain ⟨hbefore, -⟩ := (state.preferenceRun plan).resolve_of_keyless hkey
          refine ⟨?_, ?_⟩
          · rw [hnone] at hanswer
            rw [(resolved_spec hresolve).1] at hbefore
            exact (Except.ok.inj hanswer).symm.trans (Except.ok.inj hbefore).symm
          · rw [hsame] at hstore
            exact hstore.symm
      | some key =>
          have hfound := hlive key hkey
          refine ⟨?_, ?_⟩
          · rw [Version.PreferenceRun.answer_eq hkey] at hanswer
            simp only [State.preferenceRun, hfound, Version.PreferenceRun.reply]
              at hanswer
            exact (Except.ok.inj hanswer).symm
          · rw [Version.PreferenceRun.store_resolve_of_live hkey hfound] at hstore
            exact hstore.symm

end Version

section Decision

variable {plan : Plan} {request : Http.Request} {first second : Handled}

/-- Answers with one content make the same decision. -/
theorem sameDecision_of_content {answer other : Except GatewayError Cors.PreflightResponse}
    (hcontent : Cors.content (some answer) = Cors.content (some other))
    (hfirst : first.decision = preflightDecision answer)
    (hsecond : second.decision = preflightDecision other) :
    SameDecision plan request first second := by
  cases answer with
  | ok response =>
      cases other with
      | ok again =>
          have hheaders : response.headers = again.headers := by
            simpa [Cors.content, Except.map] using hcontent
          exact .responded response.headers response.cacheHit again.cacheHit hfirst
            (hheaders ▸ hsecond)
      | error error => simp [Cors.content, Except.map] at hcontent
  | error error =>
      cases other with
      | ok again => simp [Cors.content, Except.map] at hcontent
      | error same =>
          obtain rfl : error = same := by simpa [Cors.content, Except.map] using hcontent
          exact .rejected error hfirst hsecond

/-- The same routes make the same decision, whatever is rolled. -/
theorem sameDecision_of_routes {roll reroll : Nat → Nat}
    (hroll : ∀ total, 0 < total → roll total < total)
    (hreroll : ∀ total, 0 < total → reroll total < total)
    {routes : List Route.Resolved} (hweighty : ∀ route ∈ routes, route.target.Weighty)
    (hfirst : first.decision = routedDecision plan roll request first.context routes)
    (hsecond : second.decision =
      routedDecision plan reroll request second.context routes) :
    SameDecision plan request first second := by
  rw [routedDecision, Route.Match.find?_of_weighty hroll hweighty] at hfirst
  rw [routedDecision, Route.Match.find?_of_weighty hreroll hweighty] at hsecond
  cases happlying : routes.find? fun route => route.applies request with
  | none =>
      rw [happlying] at hfirst hsecond
      exact .rejected _ hfirst hsecond
  | some route =>
      have hroute := hweighty route (List.mem_of_find?_eq_some happlying)
      obtain ⟨selection, hselect, hleads⟩ := Route.Target.select_of_weighty hroute hroll
      obtain ⟨other, hreselect, hother⟩ := Route.Target.select_of_weighty hroute hreroll
      simp only [happlying, Option.bind_some, hselect, Option.map_some] at hfirst
      simp only [happlying, Option.bind_some, hreselect, Option.map_some] at hsecond
      exact .forwarded route selection other hleads hother hfirst hsecond

end Decision

section Again

variable {plan : Plan} {chance next : Chance} {request : Http.Request}
variable {state later : State} {first second : Handled}
variable {resolved again : Version.ResolveStep}

theorem resolved_of_handle
    (hfirst : handle plan chance.freshId chance.rollBelow request state = .ok first) :
    ∃ resolved, lookUpVersion plan chance.freshId request state = .ok resolved ∧
      first.state.preferences = resolved.cache := by
  cases handling hfirst with
  | preflight resolved _ _ hresolve _ _ _ hstate
  | routed resolved _ hresolve _ _ _ hstate =>
      exact ⟨resolved, hresolve, by rw [hstate]; rfl⟩

/-- What has been said of a preference is remembered until it expires. -/
theorem preference_kept
    (hfirst : handle plan chance.freshId chance.rollBelow request state = .ok first)
    (hresolve : lookUpVersion plan chance.freshId request state = .ok resolved)
    (havailable : state.store.preferencesUnavailable = false)
    {admits : Event → Prop} (hcourse : Course plan admits first.state later)
    (hbeyond : LivesBeyond plan request first.state later.now)
    {key : Store.PreferenceKey}
    (hkey : Version.key? (tenantOf plan request) request.path = some key) :
    later.preferences.live? later.now key = some resolved.preference := by
  obtain ⟨hanswer, hstep⟩ := resolved_spec hresolve
  obtain ⟨dated, hentry, hvalue⟩ :=
    (state.preferenceRun plan).dated?_resolve hkey havailable hanswer
  rw [hstep] at hentry
  have hdated : first.state.preferences.dated? key = some dated := by
    obtain ⟨same, hsame, hcache⟩ := resolved_of_handle hfirst
    obtain rfl := Except.ok.inj (hsame.symm.trans hresolve)
    rw [hcache]
    exact hentry
  have hyoung := hbeyond.preference key dated hkey hdated
  refine preference_course hcourse (Nat.le_refl _) ?_
  rw [Expiring.live?_eq, hdated, Option.bind_some, if_pos hyoung, hvalue]

/-- What is said to a preflight follows from the policy. -/
theorem content_of_sound (hsound : Sound plan state) {preflight : Cors.PreflightStep}
    (hpreflight : Cors.handlePreflight plan.preflight state.now request
      state.preflights = .ok preflight) :
    Cors.content preflight.answer =
      Cors.plainAnswer plan.preflight.policy request :=
  (state.preflightRun plan).content_of_allows hsound.allowed
    (preflight_spec hpreflight).1

theorem repeats_of_contexts
    (hfirst : first.context = taggedContext plan chance.freshId request state resolved)
    (hsecond : second.context = taggedContext plan next.freshId request later again)
    (hversion : again.preference = resolved.preference)
    (hstore : second.state.store = later.store)
    (hdecision : SameDecision plan request first second) :
    Repeats plan request state later first second where
  store := hstore
  version := by rw [hfirst, hsecond, taggedContext, taggedContext, hversion]
  tenant := by rw [hfirst, hsecond]; rfl
  region := by
    intro hregion
    rw [hfirst, hsecond, taggedContext, taggedContext, hregion]
  correlationId := by
    intro id hid hsome
    have hnamed : ∀ freshId, (Http.Context.ofRequest request
        plan.settings.tenantHeader freshId).correlationId = id := by
      intro freshId
      rw [requestIdHeader] at hid
      simp [Http.Context.ofRequest, hid, hsome]
    rw [hfirst, hsecond]
    exact (hnamed next.freshId).trans (hnamed chance.freshId).symm
  decision := hdecision

/-- Routes that a request has got are got again. -/
theorem routes_again {store : Store.Memory} (hsound : Sound plan state)
    (hfirst : Sound plan first.state) (havailable : store.routesUnavailable = false)
    (hlisted : first.state.cache = (state.cache.list state.now store).cache)
    (hcourse : Course plan (· ≠ .invalidate) first.state later)
    (hyoung : ∀ slot, first.state.cache.current? = some slot →
      slot.isExpired first.state.cache.ttl later.now = false)
    (other : Store.Memory) :
    later.cache.list later.now other =
        ⟨later.cache, other, (state.cache.list state.now store).routes, []⟩ ∧
      ∀ route ∈ (state.cache.list state.now store).routes, route.target.Weighty := by
  obtain ⟨slot, hcurrent, hload⟩ :=
    Route.Cache.current?_list hsound.ready state.now havailable
  rw [← hlisted] at hcurrent
  have hstill := hyoung slot hcurrent
  have hheld : later.cache = first.state.cache :=
    cache_course hcourse (by simp) hcurrent hload hstill
  refine ⟨hheld ▸ Route.Cache.list_of_young hcurrent hload hstill, ?_⟩
  obtain ⟨rows, hmade⟩ := hfirst.made
  exact (hmade.slots slot (Route.Cache.mem_slots_of_current? hcurrent) _ hload).weighty

/-- The version that a request has got is got again. -/
theorem version_repeats
    (hfirst : handle plan chance.freshId chance.rollBelow request state = .ok first)
    (havailable : state.store.preferencesUnavailable = false)
    {admits : Event → Prop} (hcourse : Course plan admits first.state later)
    (hbeyond : LivesBeyond plan request first.state later.now)
    (hresolve : lookUpVersion plan chance.freshId request state = .ok resolved)
    (hagain : lookUpVersion plan next.freshId request later = .ok again) :
    again.preference = resolved.preference ∧ again.store = later.store := by
  obtain ⟨same, hsame, hspec⟩ := version_again hresolve
    (fun _ => preference_kept hfirst hresolve havailable hcourse hbeyond) next.freshId
  obtain rfl := Except.ok.inj (hsame.symm.trans hagain)
  exact hspec

/-- What has been said to a preflight is said again. -/
theorem content_repeats (hsound : Sound plan state) (hlater : Sound plan later)
    {preflight others : Cors.PreflightStep}
    (hpreflight : Cors.handlePreflight plan.preflight state.now request
      state.preflights = .ok preflight)
    (hothers : Cors.handlePreflight plan.preflight later.now request
      later.preflights = .ok others) :
    Cors.content preflight.answer = Cors.content others.answer :=
  (content_of_sound hsound hpreflight).trans (content_of_sound hlater hothers).symm

theorem repeats
    (hroll : ∀ total, 0 < total → chance.rollBelow total < total)
    (hreroll : ∀ total, 0 < total → next.rollBelow total < total)
    (hsound : Sound plan state)
    (hroutes : state.store.routesUnavailable = false)
    (hpreferences : state.store.preferencesUnavailable = false)
    (hfirst : handle plan chance.freshId chance.rollBelow request state = .ok first)
    (hcourse : Course plan (· ≠ .invalidate) first.state later)
    (hbeyond : LivesBeyond plan request first.state later.now)
    (hsecond : handle plan next.freshId next.rollBelow request later = .ok second) :
    Repeats plan request state later first second := by
  have hparts : Parts plan (fun _ => True) state first.state := parts_of_handle hfirst
  have hsoundFirst := hsound.move hparts
  have hsoundLater := hsoundFirst.course hcourse
  -- the policy decides whether there is an answer, so both times or neither time
  cases handling hfirst with
  | preflight resolved _ answer hresolve hpreflight hanswer hcontext _ hdecision =>
      cases handling hsecond with
      | preflight again _ other hresolves hothers hother hcontexts hstates hdecisions =>
          obtain ⟨hsame, hstore⟩ :=
            version_repeats hfirst hpreferences hcourse hbeyond hresolve hresolves
          have hcontents := content_repeats hsound hsoundLater hpreflight hothers
          rw [hanswer, hother] at hcontents
          exact repeats_of_contexts hcontext hcontexts hsame
            (by rw [hstates]; exact hstore)
            (sameDecision_of_content hcontents hdecision hdecisions)
      | routed _ _ _ hothers hother =>
          have hcontents := content_repeats hsound hsoundLater hpreflight hothers
          simp [hanswer, hother, Cors.content] at hcontents
  | routed resolved _ hresolve hpreflight hanswer hcontext hstate hdecision =>
      cases handling hsecond with
      | preflight _ _ _ _ hothers hother =>
          have hcontents := content_repeats hsound hsoundLater hpreflight hothers
          simp [hanswer, hother, Cors.content] at hcontents
      | routed again _ hresolves _ _ hcontexts hstates hdecisions =>
          obtain ⟨hsame, hstore⟩ :=
            version_repeats hfirst hpreferences hcourse hbeyond hresolve hresolves
          have hno : isPreflight request = false := by
            rw [isPreflight_of_answer hpreflight, hanswer]
            rfl
          have havailable : resolved.store.routesUnavailable = false := by
            obtain ⟨⟨count, -, hasked⟩, -⟩ := Version.resolve_spec hresolve
            rw [hasked]
            exact hroutes
          obtain ⟨hlist, hweighty⟩ := routes_again hsound hsoundFirst havailable
            (by rw [hstate]) hcourse (hbeyond.routes hno) again.store
          rw [hlist] at hstates hdecisions
          exact repeats_of_contexts hcontext hcontexts hsame
            (by rw [hstates]; exact hstore)
            (sameDecision_of_routes hroll hreroll hweighty hdecision hdecisions)

end Again

/-- An answer to a preflight that is remembered now is forgotten at an instant that the
clock can show. -/
def WithinClock (plan : Plan) (state : State) : Prop :=
  state.now.nanos + plan.preflight.ttl.nanos ≤ Instant.limit

/-- A request that was decided about while the stores were in reach is decided
about again as before, without a store, as long as its preference and the routes
live and are not invalidated.  That holds for every course up to the first time and
for every course in between, within the range of the clock.  Beyond it there is no
decision just if the answer to an allowed preflight has been forgotten in between and
would have to be remembered beyond the last instant. -/
theorem warm_gateway_repeats (plan : Plan) (config : Config.Gateway)
    (store : Store.Memory) {state later : State}
    (hstate : Course plan (fun _ => True) (.initial config store) state)
    (hroutes : state.store.routesUnavailable = false)
    (hpreferences : state.store.preferencesUnavailable = false)
    (request : Http.Request) (chance next : Chance)
    (hroll : ∀ total, 0 < total → chance.rollBelow total < total)
    (hreroll : ∀ total, 0 < total → next.rollBelow total < total) {first : Handled}
    (hfirst : handle plan chance.freshId chance.rollBelow request state = .ok first)
    (hcourse : Course plan (· ≠ .invalidate) first.state later)
    (hbeyond : LivesBeyond plan request first.state later.now) :
    (WithinClock plan later →
      ∃ second, handle plan next.freshId next.rollBelow request later = .ok second ∧
        Repeats plan request state later first second) ∧
    (∀ second, handle plan next.freshId next.rollBelow request later = .ok second →
      Repeats plan request state later first second) ∧
    ((∃ fault, handle plan next.freshId next.rollBelow request later = .error fault) ↔
      LosesAllowance plan request later) := by
  have hsound : Sound plan state := (sound_initial plan config store).course hstate
  have hrepeats : ∀ second, handle plan next.freshId next.rollBelow request later =
      .ok second → Repeats plan request state later first second := fun second =>
    repeats hroll hreroll hsound hroutes hpreferences hfirst hcourse hbeyond
  have hfaults : (∃ fault, handle plan next.freshId next.rollBelow request later =
      .error fault) ↔ LosesAllowance plan request later := by
    rw [handle_eq_error_iff]
    refine or_iff_right ?_
    rintro ⟨key, -, hkey, hdead, -⟩
    obtain ⟨resolved, hresolve, -⟩ := resolved_of_handle hfirst
    simp [preference_kept hfirst hresolve hpreferences hcourse hbeyond hkey] at hdead
  refine ⟨fun hwithin => ?_, hrepeats, hfaults⟩
  cases hsecond : handle plan next.freshId next.rollBelow request later with
  | ok second => exact ⟨second, rfl, hrepeats second hsecond⟩
  | error fault =>
      obtain ⟨-, -, -, hlate⟩ := hfaults.mp ⟨fault, hsecond⟩
      exact absurd hwithin (Nat.not_le.mpr hlate)

/-- A gateway after some time, during which its stores were emptied and went out of
reach. -/
def cutOff (span : Duration) (state : State) : State :=
  { state with
    now := state.now.advance span
    store :=
      { state.store with
        routes := []
        routesUnavailable := true
        preferencesUnavailable := true } }

theorem course_cutOff (plan : Plan) (span : Duration) (state : State) :
    Course plan (· ≠ .invalidate) state (cutOff span state) :=
  .tail
    (.tail
      (.single (.event orderChance (.replaceRows []) (by simp) rfl))
      (.event orderChance (.setUnavailable true true) (by simp) rfl))
    (.event orderChance (.wait span) (by simp) rfl)

/-- A minute later an order is sent on as before, though no store is left. -/
theorem order_repeated_without_stores :
    ∃ first second, handleOrder tenantOrder = .ok first ∧
      handle (.ofConfig {}) "other" (fun _ => 0) tenantOrder
        (cutOff (.ofMinutes 1) first.state) = .ok second ∧
      Repeats (.ofConfig {}) tenantOrder orderState
        (cutOff (.ofMinutes 1) first.state) first second ∧
      first.context.effectiveVersion = some "v3" ∧
      ∃ sent, second.decision = .forward sent := by
  have hfirst : (handleOrder tenantOrder).toOption.any (fun first =>
      first.context.effectiveVersion = some "v3" &&
        (first.decision.forwarded?.isSome &&
          (first.state.now = .start &&
            (first.state.preferences.entries.all (fun (_, dated) =>
                (Instant.start.advance (.ofMinutes 1)).before dated.expiresAt) &&
              first.state.cache.slots.all fun slot =>
                !slot.isExpired first.state.cache.ttl
                  (Instant.start.advance (.ofMinutes 1)))))) = true := by
    decide +kernel
  obtain ⟨first, hfirst, htests⟩ := exists_ok_of_any hfirst
  simp only [Bool.and_eq_true, decide_eq_true_eq, List.all_eq_true] at htests
  obtain ⟨hversion, hforwarded, hnow, hpreferences, hslots⟩ := htests
  have hbeyond : LivesBeyond (.ofConfig {}) tenantOrder first.state
      (cutOff (.ofMinutes 1) first.state).now := by
    rw [cutOff, hnow]
    refine ⟨?_, ?_⟩
    · intro key dated _ hentry
      have hyoung := hpreferences _
        ((Expiring.dated?_eq_some_iff _ key dated).mp hentry)
      exact of_decide_eq_true hyoung
    · intro _ slot hcurrent
      simpa using hslots slot (Route.Cache.mem_slots_of_current? hcurrent)
  have hwithin : WithinClock (.ofConfig {}) (cutOff (.ofMinutes 1) first.state) := by
    show (first.state.now.advance (.ofMinutes 1)).nanos +
      (Plan.ofConfig {}).preflight.ttl.nanos ≤ Instant.limit
    rw [hnow]
    decide
  obtain ⟨hrepeats, -⟩ := warm_gateway_repeats (.ofConfig {}) {} _ .refl rfl rfl
    tenantOrder orderChance ⟨"other", fun _ => 0⟩ (fun _ hpositive => hpositive)
    (fun _ hpositive => hpositive) hfirst (course_cutOff _ _ _) hbeyond
  obtain ⟨second, hsecond, hrepeated⟩ := hrepeats hwithin
  refine ⟨first, second, hfirst, hsecond, hrepeated, hversion, ?_⟩
  obtain ⟨sent, hsent⟩ := Option.isSome_iff_exists.mp hforwarded
  have hsent := Decision.forwarded?_eq_some_iff.mp hsent
  cases hrepeated.decision with
  | forwarded _ _ _ _ _ _ hagain => exact ⟨_, hagain⟩
  | responded _ _ _ hother => simp [hsent] at hother
  | rejected _ hother => simp [hsent] at hother

/-- Answers to preflights are remembered for half of what the clock can show. -/
def patientConfig : Config.Gateway :=
  { cors :=
    { allowedOrigins := ["https://app.example.com"]
      preflightCacheTtl := .ofSeconds 5000000000000000000 } }

/-- A preflight that was decided about is undecided once its answer is forgotten. -/
theorem forgotten_preflight_undecided :
    ∃ first, handle (.ofConfig patientConfig) "fresh" (fun _ => 0) appPreflight
        (.initial patientConfig {}) = .ok first ∧
      Course (.ofConfig patientConfig) (· ≠ .invalidate) first.state
        (cutOff (.ofSeconds 5000000000000000000) first.state) ∧
      LivesBeyond (.ofConfig patientConfig) appPreflight first.state
        (cutOff (.ofSeconds 5000000000000000000) first.state).now ∧
      ∀ second, handle (.ofConfig patientConfig) "fresh" (fun _ => 0) appPreflight
        (cutOff (.ofSeconds 5000000000000000000) first.state) ≠ .ok second := by
  have hfirst : (handle (.ofConfig patientConfig) "fresh" (fun _ => 0) appPreflight
      (.initial patientConfig {})).toOption.any (fun first =>
        first.state.preferences.entries = [] &&
          (handle (.ofConfig patientConfig) "fresh" (fun _ => 0) appPreflight
            (cutOff (.ofSeconds 5000000000000000000)
              first.state)).toOption.isNone) = true := by
    decide +kernel
  obtain ⟨first, hfirst, htests⟩ := exists_ok_of_any hfirst
  simp only [Bool.and_eq_true, decide_eq_true_eq] at htests
  obtain ⟨hpreferences, hnone⟩ := htests
  refine ⟨first, hfirst, course_cutOff _ _ _, ⟨?_, ?_⟩, ?_⟩
  · intro key dated _ hentry
    rw [Expiring.dated?_eq_some_iff, hpreferences] at hentry
    simp at hentry
  · intro hother
    exact absurd hother (by decide +kernel)
  · intro second hsecond
    rw [hsecond] at hnone
    simp [Except.toOption] at hnone

end Gateway

end EdgeGateway
