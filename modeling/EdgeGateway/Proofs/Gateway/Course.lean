import EdgeGateway.Proofs.Gateway.Destination
import EdgeGateway.Proofs.Gateway.Touching
import EdgeGateway.Proofs.Route.Ready
import Mathlib.Logic.Relation

/-!
# The course of a gateway

A gateway goes from state to state by the events of its run, by requests that end
without a decision, and by the tasks that sweep its caches.  `Parts` says what
such a move can do to each of its parts; everything that a course keeps is
concluded from that.

What the caches hold is sound: an allowed answer is one that the policy gives, the
installed slot has routes, and all routes were made from rows.  A preference is
kept until it expires, and so are the routes unless they are invalidated.
-/

namespace EdgeGateway

/-- What lives at an instant has lived before. -/
theorem Expiring.live?_of_le {Key Value : Type} [DecidableEq Key]
    {cache : Expiring Key Value} {now later : Instant}
    (hlater : now.nanos ≤ later.nanos) {key : Key} {value : Value}
    (hlive : cache.live? later key = some value) : cache.live? now key = some value := by
  rw [live?_eq, Option.bind_eq_some_iff] at hlive ⊢
  obtain ⟨dated, hentry, hvalue⟩ := hlive
  refine ⟨dated, hentry, ?_⟩
  split at hvalue
  next hyoung => rwa [if_pos (Nat.lt_of_le_of_lt hlater hyoung)]
  next => simp at hvalue

namespace Cors.PreflightRun

open PreflightQuestion (ofRequest)

/-- The policy gives this answer to the requests with this key. -/
def Allows (policy : Policy) (key : PreflightKey) (allowance : Allowance) : Prop :=
  ∃ request, (ofRequest request).key = key ∧
    (ofRequest request).decision policy = .ok allowance

theorem allows_handle (run : PreflightRun)
    (hallows : run.cache.Holds (Allows run.handler.policy)) (request : Http.Request) :
    (run.step (.handle request)).cache.Holds (Allows run.handler.policy) := by
  have hlookup := hallows.lookup run.now (ofRequest request).key
  cases run.handled request with
  | other _ _ hstep => rwa [hstep]
  | hit _ _ _ _ hstep | rejected _ _ _ _ _ hstep | lost _ _ _ _ _ _ hstep =>
      rw [hstep]
      exact hlookup
  | kept _ _ _ hdecision _ _ hstep =>
      rw [hstep]
      exact hlookup.put ⟨request, rfl, hdecision⟩

/-- But for the mark of a hit, the answer is that of the policy. -/
theorem content_of_allows (run : PreflightRun) {request : Http.Request}
    (hallows : run.cache.Holds (Allows run.handler.policy))
    {answer : Option (Except GatewayError PreflightResponse)}
    (hanswer : run.answer request = .ok answer) :
    content answer = plainAnswer run.handler.policy request := by
  cases run.handled request with
  | other hother hnone =>
      obtain rfl := Except.ok.inj (hnone.symm.trans hanswer)
      simp [content, plainAnswer, hother]
  | hit allowance hyes hlive hsome =>
      obtain rfl := Except.ok.inj (hsome.symm.trans hanswer)
      obtain ⟨dated, hentry, rfl⟩ := Expiring.dated?_of_live? hlive
      obtain ⟨other, hkey, hallowed⟩ := hallows _ dated hentry
      have hdecision := PreflightQuestion.decision_eq_ok_of_key hkey hallowed
      simp [content, plainAnswer, hyes, hdecision, Except.map]
  | rejected _ hyes _ hdecision hsome | kept _ hyes _ hdecision _ hsome =>
      obtain rfl := Except.ok.inj (hsome.symm.trans hanswer)
      simp [content, plainAnswer, hyes, hdecision, Except.map]
  | lost _ _ _ _ _ hfault => simp [hfault] at hanswer

end Cors.PreflightRun

namespace Version.PreferenceRun

/-- A resolution takes nothing away that still lives. -/
theorem live?_resolve_of_live {run : PreferenceRun} {key : Store.PreferenceKey}
    {later : Instant} (hlater : run.now.nanos ≤ later.nanos)
    {preference : Option Store.Preference}
    (hlive : run.cache.live? later key = some preference)
    (tenantId : Option String) (path : String) :
    (run.step (.resolve tenantId path)).cache.live? later key = some preference := by
  have hnow := Expiring.live?_of_le hlater hlive
  rw [live?_resolve key hlater]
  split
  next => rw [hnow, remains, hlive]; simp
  next => exact hlive

end Version.PreferenceRun

namespace Gateway

/-! ## Moves -/

/-- A request without a decision has been looked up in the caches and the store. -/
def afterFault (plan : Plan) (request : Http.Request) (state : State) : State :=
  let versions := (state.preferenceRun plan).step
    (.resolve (tenantOf plan request) request.path)
  let tagged :=
    { state with preferences := versions.cache, store := versions.store }
  match (state.preferenceRun plan).answer (tenantOf plan request) request.path with
  | .error _ => tagged
  | .ok _ =>
      { tagged with
        preflights := ((state.preflightRun plan).step (.handle request)).cache }

/-- What can happen to a gateway next, where only some events are admitted. -/
inductive Move (plan : Plan) (admits : Event → Prop) (state : State) : State → Prop where
  | event (chance : Chance) (event : Event) (hadmits : admits event)
      {stepped : Stepped} (hstep : step plan chance state event = .ok stepped) :
      Move plan admits state stepped.state
  | fault (chance : Chance) (request : Http.Request) {fault : ClockFault}
      (hfault : handle plan chance.freshId chance.rollBelow request state =
        .error fault) :
      Move plan admits state (afterFault plan request state)
  | preferencesSwept :
      Move plan admits state
        { state with preferences := state.preferences.purge state.now }
  | preflightsSwept :
      Move plan admits state
        { state with preflights := state.preflights.purge state.now }

/-- Any number of moves. -/
abbrev Course (plan : Plan) (admits : Event → Prop) : State → State → Prop :=
  Relation.ReflTransGen (Move plan admits)

/-- What becomes of the remembered preferences. -/
inductive PreferencesMove (plan : Plan) (state : State)
    (cache : Version.PreferenceCache) : Prop where
  | kept (hcache : cache = state.preferences)
  | resolved (tenantId : Option String) (path : String)
      (hcache : cache =
        ((state.preferenceRun plan).step (.resolve tenantId path)).cache)
  | swept (hcache : cache = state.preferences.purge state.now)

/-- What becomes of the remembered preflights. -/
inductive PreflightsMove (plan : Plan) (state : State)
    (cache : Cors.PreflightCache) : Prop where
  | kept (hcache : cache = state.preflights)
  | handled (request : Http.Request)
      (hcache : cache = ((state.preflightRun plan).step (.handle request)).cache)
  | swept (hcache : cache = state.preflights.purge state.now)

/-- What becomes of the routes. -/
inductive CacheMove (admits : Event → Prop) (state : State) (cache : Route.Cache) :
    Prop where
  | kept (hcache : cache = state.cache)
  | listed (store : Store.Memory)
      (hcache : cache = (state.cache.list state.now store).cache)
  | invalidated (hadmits : admits .invalidate)
      (hcache : cache = state.cache.invalidate.1)

/-- All that a move can do to the clock and to the caches. -/
structure Parts (plan : Plan) (admits : Event → Prop) (state next : State) : Prop where
  now : state.now.nanos ≤ next.now.nanos
  preferences : PreferencesMove plan state next.preferences
  preflights : PreflightsMove plan state next.preflights
  cache : CacheMove admits state next.cache

section Parts

variable {plan : Plan} {admits : Event → Prop} {state next : State}

theorem parts_of_handle {freshId : String} {rollBelow : Nat → Nat}
    {request : Http.Request} {handled : Handled}
    (hhandle : handle plan freshId rollBelow request state = .ok handled) :
    Parts plan admits state handled.state := by
  have hpreferences : ∀ resolved,
      lookUpVersion plan freshId request state = .ok resolved →
        PreferencesMove plan state resolved.cache := by
    intro resolved hresolve
    have hstep := congrArg Version.PreferenceRun.cache (resolved_spec hresolve).2
    exact .resolved (tenantOf plan request) request.path hstep.symm
  have hpreflights : ∀ preflight,
      Cors.handlePreflight plan.preflight state.now request state.preflights =
          .ok preflight →
        PreflightsMove plan state preflight.cache := by
    intro preflight hpreflight
    have hstep := congrArg Cors.PreflightRun.cache (preflight_spec hpreflight).2
    exact .handled request hstep.symm
  cases handling hhandle with
  | preflight resolved preflight _ hresolve hpreflight _ _ hstate =>
      rw [hstate]
      exact ⟨Nat.le_refl _, hpreferences resolved hresolve,
        hpreflights preflight hpreflight, .kept rfl⟩
  | routed resolved preflight hresolve hpreflight _ _ hstate =>
      rw [hstate]
      exact ⟨Nat.le_refl _, hpreferences resolved hresolve,
        hpreflights preflight hpreflight, .listed resolved.store rfl⟩

theorem parts_afterFault (request : Http.Request) (state : State) :
    Parts plan admits state (afterFault plan request state) := by
  unfold afterFault
  simp only
  split
  · exact ⟨Nat.le_refl _, .resolved _ _ rfl, .kept rfl, .kept rfl⟩
  · exact ⟨Nat.le_refl _, .resolved _ _ rfl, .handled request rfl, .kept rfl⟩

theorem parts_of_step {chance : Chance} {event : Event} {stepped : Stepped}
    (hadmits : admits event) (hstep : step plan chance state event = .ok stepped) :
    Parts plan admits state stepped.state := by
  cases event with
  | wait span =>
      obtain rfl := pure_eq_ok_iff.mp hstep
      exact ⟨Nat.le_add_right _ _, .kept rfl, .kept rfl, .kept rfl⟩
  | invalidate =>
      obtain rfl := pure_eq_ok_iff.mp hstep
      exact ⟨Nat.le_refl _, .kept rfl, .kept rfl, .invalidated hadmits rfl⟩
  | load =>
      obtain rfl := pure_eq_ok_iff.mp hstep
      exact ⟨Nat.le_refl _, .kept rfl, .kept rfl, .listed state.store rfl⟩
  | handle request =>
      obtain ⟨handled, hhandle, hstate⟩ := bind_eq_ok_iff.mp hstep
      obtain rfl := pure_eq_ok_iff.mp hstate
      exact parts_of_handle hhandle
  | abandon request =>
      obtain ⟨handled, hhandle, hstate⟩ := bind_eq_ok_iff.mp hstep
      obtain rfl := pure_eq_ok_iff.mp hstate
      have hparts : Parts plan admits state handled.state := parts_of_handle hhandle
      exact ⟨hparts.now, hparts.preferences, hparts.preflights, hparts.cache⟩
  | _ =>
      obtain rfl := pure_eq_ok_iff.mp hstep
      exact ⟨Nat.le_refl _, .kept rfl, .kept rfl, .kept rfl⟩

theorem parts_of_move (hmove : Move plan admits state next) :
    Parts plan admits state next := by
  cases hmove with
  | event _ _ hadmits hstep => exact parts_of_step hadmits hstep
  | fault _ request _ => exact parts_afterFault request state
  | preferencesSwept => exact ⟨Nat.le_refl _, .swept rfl, .kept rfl, .kept rfl⟩
  | preflightsSwept => exact ⟨Nat.le_refl _, .kept rfl, .swept rfl, .kept rfl⟩

end Parts

/-! ## What a course keeps -/

/-- What the caches of a gateway hold is what the policy, the store and the rows
have given. -/
structure Sound (plan : Plan) (state : State) : Prop where
  allowed : state.preflights.Holds (Cors.PreflightRun.Allows plan.preflight.policy)
  ready : state.cache.Ready
  made : ∃ rows, state.cache.HoldsFrom rows

section Course

variable {plan : Plan} {admits : Event → Prop} {state next : State}

theorem sound_initial (plan : Plan) (config : Config.Gateway) (store : Store.Memory) :
    Sound plan (.initial config store) where
  allowed := Expiring.holds_empty
  ready := by simp [State.initial, Route.Cache.Ready, Route.Cache.current?]
  made := ⟨store.routes, (stocked_initial config store).cache⟩

theorem Sound.move (hsound : Sound plan state) (hparts : Parts plan admits state next) :
    Sound plan next where
  allowed := by
    cases hparts.preflights with
    | kept hcache => exact hcache ▸ hsound.allowed
    | handled request hcache =>
        exact hcache ▸ (state.preflightRun plan).allows_handle hsound.allowed request
    | swept hcache => exact hcache ▸ hsound.allowed.keep _
  ready := by
    cases hparts.cache with
    | kept hcache => exact hcache ▸ hsound.ready
    | listed store hcache =>
        exact hcache ▸ Route.Cache.ready_list hsound.ready state.now store
    | invalidated _ hcache =>
        simp [hcache, Route.Cache.Ready, Route.Cache.invalidate, Route.Cache.current?]
  made := by
    obtain ⟨rows, hmade⟩ := hsound.made
    cases hparts.cache with
    | kept hcache => exact ⟨rows, hcache ▸ hmade⟩
    | listed store hcache =>
        have hmore := hmade.mono (List.subset_append_left rows store.routes)
        have hlisted := hmore.list state.now store (List.subset_append_right _ _)
        exact ⟨_, hcache ▸ hlisted.1⟩
    | invalidated _ hcache =>
        rw [hcache]
        exact ⟨rows, hmade.slots, hmade.lastGood⟩

theorem Sound.course (hsound : Sound plan state) (hcourse : Course plan admits state next) :
    Sound plan next := by
  induction hcourse with
  | refl => exact hsound
  | tail _ hmove ih => exact ih.move (parts_of_move hmove)

/-- A preference is remembered until it expires. -/
theorem preference_course (hcourse : Course plan admits state next)
    {key : Store.PreferenceKey} {preference : Option Store.Preference}
    {later : Instant} (hlater : next.now.nanos ≤ later.nanos)
    (hlive : state.preferences.live? later key = some preference) :
    next.preferences.live? later key = some preference := by
  induction hcourse with
  | refl => exact hlive
  | @tail between next _ hmove ih =>
      have hparts := parts_of_move hmove
      have hbefore := Nat.le_trans hparts.now hlater
      have hstill := ih hbefore
      cases hparts.preferences with
      | kept hcache => rw [hcache, hstill]
      | resolved tenantId path hcache =>
          rw [hcache]
          exact Version.PreferenceRun.live?_resolve_of_live hbefore hstill
            tenantId path
      | swept hcache => rw [hcache, Expiring.live?_purge _ hbefore, hstill]

/-- Routes are held until they are too old, unless they are invalidated. -/
theorem cache_course (hcourse : Course plan admits state next)
    (hkept : ¬ admits .invalidate) {slot : Route.LoadSlot}
    {routes : List Route.Resolved} (hcurrent : state.cache.current? = some slot)
    (hload : slot.load = .ended (some routes))
    (hyoung : slot.isExpired state.cache.ttl next.now = false) :
    next.cache = state.cache := by
  induction hcourse with
  | refl => rfl
  | @tail between next _ hmove ih =>
      have hparts := parts_of_move hmove
      have hbefore := Route.LoadSlot.isExpired_of_le hparts.now hyoung
      have hsame := ih hbefore
      cases hparts.cache with
      | kept hcache => rw [hcache, hsame]
      | listed store hcache =>
          rw [hcache, hsame, Route.Cache.list_of_young hcurrent hload hbefore]
      | invalidated hadmits => exact absurd hadmits hkept

end Course

end Gateway

end EdgeGateway
