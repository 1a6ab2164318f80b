import EdgeGateway.Proofs.Gateway.Handling
import EdgeGateway.Proofs.Route.BaseUrl
import EdgeGateway.Proofs.Route.Origin

/-!
# Where requests are sent

A forwarded request goes to the base of an address that a row of the store names,
and its path is glued to that base.  As long as the path begins with a slash the
host is that of the target.  Filters that put a path of their own making in the
place of the path need not give one that does, and then the path goes on with the
name of the host.
-/

namespace EdgeGateway

/-! ## The path -/

namespace Version

theorem isRooted_pathWithVersion {path : String} (hrooted : Route.IsRooted path)
    (version : String) : Route.IsRooted (pathWithVersion path version) := by
  obtain ⟨rest, hpath⟩ := Route.isRooted_iff.mp hrooted
  have hsplit : Text.splitAtEvery '/' path.toList =
      [] :: Text.splitAtEvery '/' rest := by
    rw [hpath]
    simp [Text.splitAtEvery]
  have hsome :
      replaceFirstVersion version.toList (Text.splitAtEvery '/' rest) ≠ [] := by
    cases hrest : Text.splitAtEvery '/' rest with
    | nil => exact absurd hrest (Text.splitAtEvery_ne_nil '/' rest)
    | cons segment segments =>
        unfold replaceFirstVersion
        split <;> simp
  obtain ⟨segment, segments, hsegments⟩ := List.exists_cons_of_ne_nil hsome
  refine Route.isRooted_iff.mpr ⟨Text.glue ['/'] (segment :: segments), ?_⟩
  rw [pathWithVersion, hsplit, replaceFirstVersion, hsegments]
  simp [isVersionChars, Text.glue]

end Version

/-! ## The rows of a run -/

namespace Gateway

/-- The rows that an event puts into the store. -/
def Event.rows : Event → List Route.Row
  | replaceRows rows => rows
  | _ => []

/-- All routes are made from these rows, now and until the store gets others. -/
structure Stocked (rows : List Route.Row) (state : State) : Prop where
  store : state.store.routes ⊆ rows
  cache : state.cache.HoldsFrom rows

theorem Stocked.mono {rows more : List Route.Row} {state : State}
    (hstocked : Stocked rows state) (hsubset : rows ⊆ more) : Stocked more state :=
  ⟨List.Subset.trans hstocked.store hsubset, hstocked.cache.mono hsubset⟩

variable {plan : Plan} {rows : List Route.Row} {state : State}

theorem Stocked.handle {freshId : String} {rollBelow : Nat → Nat}
    {request : Http.Request} {handled : Handled} (hstocked : Stocked rows state)
    (hhandle : handle plan freshId rollBelow request state = .ok handled) :
    Stocked rows handled.state := by
  have hsame : ∀ resolved, lookUpVersion plan freshId request state = .ok resolved →
      resolved.store.routes ⊆ rows := by
    intro resolved hresolve
    obtain ⟨⟨count, -, hstore⟩, -⟩ := Version.resolve_spec hresolve
    rw [hstore]
    exact hstocked.store
  cases handling hhandle with
  | preflight resolved _ _ hresolve _ _ _ hstate =>
      rw [hstate]
      exact ⟨hsame resolved hresolve, hstocked.cache⟩
  | routed resolved _ hresolve _ _ _ hstate =>
      rw [hstate]
      have hroutes := hsame resolved hresolve
      refine ⟨?_, (hstocked.cache.list state.now resolved.store hroutes).1⟩
      rwa [← Route.Cache.store_list state.cache state.now] at hroutes

theorem stocked_step {chance : Chance} {event : Event} {stepped : Stepped}
    (hstocked : Stocked rows state)
    (hstep : step plan chance state event = .ok stepped) :
    Stocked (rows ++ event.rows) stepped.state := by
  have hkept : Stocked (rows ++ event.rows) state :=
    hstocked.mono (List.subset_append_left _ _)
  cases event with
  | replaceRows others =>
      obtain rfl := pure_eq_ok_iff.mp hstep
      exact ⟨List.subset_append_right _ _, hkept.cache⟩
  | load =>
      obtain rfl := pure_eq_ok_iff.mp hstep
      refine ⟨?_, (hkept.cache.list state.now state.store hkept.store).1⟩
      have hroutes := hkept.store
      rwa [← Route.Cache.store_list state.cache state.now] at hroutes
  | handle request =>
      obtain ⟨handled, hhandle, hstate⟩ := bind_eq_ok_iff.mp hstep
      obtain rfl := pure_eq_ok_iff.mp hstate
      exact hkept.handle hhandle
  | abandon request =>
      obtain ⟨handled, hhandle, hstate⟩ := bind_eq_ok_iff.mp hstep
      obtain rfl := pure_eq_ok_iff.mp hstate
      exact ⟨(hkept.handle hhandle).store, (hkept.handle hhandle).cache⟩
  | invalidate =>
      obtain rfl := pure_eq_ok_iff.mp hstep
      exact ⟨hkept.store, hkept.cache.slots, hkept.cache.lastGood⟩
  | _ =>
      obtain rfl := pure_eq_ok_iff.mp hstep
      exact ⟨hkept.store, hkept.cache⟩

theorem stocked_run {chance : Chance} {events : List Event} {final : State}
    {counted : List Observe.Counter} (hstocked : Stocked rows state)
    (hrun : run plan chance state events = .ok (final, counted)) :
    Stocked (rows ++ events.flatMap Event.rows) final := by
  induction events generalizing rows state counted with
  | nil =>
      obtain ⟨rfl, -⟩ := Prod.mk.inj (pure_eq_ok_iff.mp hrun)
      simpa using hstocked
  | cons event events ih =>
      obtain ⟨stepped, hstep, hrest⟩ := bind_eq_ok_iff.mp hrun
      obtain ⟨⟨last, more⟩, hmore, hfinal⟩ := bind_eq_ok_iff.mp hrest
      obtain ⟨rfl, -⟩ := Prod.mk.inj (pure_eq_ok_iff.mp hfinal)
      rw [List.flatMap_cons, ← List.append_assoc]
      exact ih (stocked_step hstocked hstep) hmore

theorem stocked_initial (config : Config.Gateway) (store : Store.Memory) :
    Stocked store.routes (.initial config store) where
  store := List.Subset.refl _
  cache := ⟨by simp [State.initial], by simp [State.initial]⟩

/-- The row that offered the route of a forwarded request. -/
theorem Along.offers {rollBelow : Nat → Nat} {request : Http.Request}
    {route : Route.Resolved} {selection : Route.Selection}
    (halong : Along rollBelow request state route selection)
    (hstocked : Stocked rows state) : ∃ row ∈ rows, row.Offers request route := by
  obtain ⟨count, hlisted⟩ := halong.listed
  have hmade := (hstocked.cache.list state.now
    (state.store.countingLookups count) hstocked.store).2
  obtain ⟨row, hrow, henabled, hresolved⟩ := hmade route hlisted
  obtain ⟨hconverts, hresolves⟩ := Route.Resolved.ofRow_ok_iff.mp hresolved
  exact ⟨row, hrow, henabled, hconverts, hresolves,
    List.all_eq_true.mp halong.applies⟩

/-- The match goes to the base of its selection. -/
theorem url_forwardRequest (settings : Settings) (context : Http.Context)
    (request : Http.Request) (found : Route.Match) :
    (forwardRequest settings context request found).url =
      Route.Match.baseUrl found.base ++
        (preferVersion settings context found).path ++
          (found.query.map ("?" ++ ·)).getD "" := by
  have hkept : (preferVersion settings context found).base = found.base ∧
      (preferVersion settings context found).query = found.query := by
    unfold preferVersion
    split
    · split <;> exact ⟨rfl, rfl⟩
    · exact ⟨rfl, rfl⟩
  rw [← hkept.1, ← hkept.2, forwardRequest, Route.Match.url]
  cases (preferVersion settings context found).query <;> rfl

theorem isRooted_preferVersion (settings : Settings) (context : Http.Context)
    (found : Route.Match) (hrooted : Route.IsRooted found.path) :
    Route.IsRooted (preferVersion settings context found).path := by
  unfold preferVersion
  split
  · split
    · exact Version.isRooted_pathWithVersion hrooted _
    · exact hrooted
  · exact hrooted

open Route (IsRooted)
open Route.Match (baseUrl)
open Net.Url (siteOf)

/-- A forwarded request goes to the base of an address that a row of the store
names, and its site is that of the base if its path begins with a slash.  It does
unless the filter that last put a path of its own in the place of the path gave
one that does not. -/
theorem forwarded_to_target (plan : Plan) (config : Config.Gateway)
    (store : Store.Memory) (chance later : Chance) (events : List Event)
    {final : State} {counted : List Observe.Counter}
    (hrun : run plan chance (.initial config store) events = .ok (final, counted))
    {request : Http.Request} (hpath : IsRooted request.path) {handled : Handled}
    (hhandle : handle plan later.freshId later.rollBelow request final = .ok handled)
    {forwarded : ForwardRequest} (hforward : handled.decision = .forward forwarded) :
    ∃ row ∈ store.routes ++ events.flatMap Event.rows,
      ∃ route selection path, row.Offers request route ∧
        route.target.Leads selection ∧
        forwarded.url = baseUrl selection.uri ++ path ++
          (request.query.map ("?" ++ ·)).getD "" ∧
        (IsRooted path →
          siteOf forwarded.url = siteOf (baseUrl selection.uri ++ "/")) ∧
        let captured := Route.Predicate.pathVariables route.predicates request.path
        let edited filters := (Route.Filter.applyAll filters captured request.path).path
        (IsRooted (edited route.filters) → IsRooted path) ∧
        (¬ IsRooted (edited route.filters) ↔
          ∃ before filter after, route.filters = before ++ filter :: after ∧
            filter.replacesPath = true ∧ ¬ IsRooted (edited (before ++ [filter])) ∧
            ∀ kept ∈ after, kept.keepsPath = true) := by
  have hstocked := stocked_run (stocked_initial config store) hrun
  obtain ⟨route, selection, halong, rfl⟩ := match_of_forward hhandle hforward
  obtain ⟨row, hrow, hoffers⟩ := halong.offers hstocked
  have hleads := Route.Target.leads_of_select halong.selects
  obtain ⟨hproper, hchecked⟩ :=
    Route.Resolved.checked_of_ofDefinition hoffers.resolves
  have huri := Route.Target.checkUri_of_leads hchecked hleads
  have hurl := url_forwardRequest plan.settings handled.context request
    (.ofSelection request route selection)
  refine ⟨row, hrow, route, selection, _, hoffers, hleads, hurl, ?_, ?_, ?_⟩
  · intro hrooted
    rw [hurl]
    exact Route.siteOf_baseUrl_append huri hrooted _
  · exact isRooted_preferVersion plan.settings handled.context
      (.ofSelection request route selection)
  · exact Route.Filter.not_isRooted_applyAll_iff hproper _ hpath

/-- What a fresh gateway with these rows does with a request. -/
def handleFirst (rows : List Route.Row) (request : Http.Request) :
    Except ClockFault Handled :=
  handle (.ofConfig {}) "fresh" (fun _ => 0) request (.initial {} (.ofRows rows []))

def sentUrl? (rows : List Route.Row) (request : Http.Request) : Option String :=
  match handleFirst rows request with
  | .ok ⟨_, _, .forward forwarded, _⟩ => some forwarded.url
  | _ => none

theorem forward_of_sentUrl? {rows : List Route.Row} {request : Http.Request}
    {url : String} (hsent : sentUrl? rows request = some url) :
    ∃ handled forwarded, handleFirst rows request = .ok handled ∧
      handled.decision = .forward forwarded ∧ forwarded.url = url := by
  unfold sentUrl? at hsent
  split at hsent
  next context forwarded counted hhandle =>
    exact ⟨_, forwarded, hhandle, rfl, Option.some.inj hsent⟩
  next => simp at hsent

def strayRequest : Http.Request := .ofTarget "GET" "/api/.evil.example/x" {}

def strictRow : Route.Row :=
  { id := "users"
    uri := some "lb://users/"
    pathPattern := some "/api/**"
    filters := .array [.string "StripPrefix=1"] }

theorem stray_request_sent_to_users :
    IsRooted strayRequest.path ∧
      ∃ handled forwarded, handleFirst [strictRow] strayRequest = .ok handled ∧
        handled.decision = .forward forwarded ∧
        forwarded.url = "http://users/.evil.example/x" ∧
        ∃ row ∈ [strictRow], ∃ route selection path,
          row.Offers strayRequest route ∧ route.target.Leads selection ∧
          forwarded.url = baseUrl selection.uri ++ path ++ "" := by
  have hpath : IsRooted strayRequest.path := by decide
  have hsent : sentUrl? [strictRow] strayRequest =
      some "http://users/.evil.example/x" := by decide +kernel
  obtain ⟨handled, forwarded, hhandle, hforward, hurl⟩ := forward_of_sentUrl? hsent
  obtain ⟨row, hrow, route, selection, path, hoffers, hleads, hglued, -⟩ :=
    forwarded_to_target (.ofConfig {}) {} (.ofRows [strictRow] [])
      ⟨"fresh", fun _ => 0⟩ ⟨"fresh", fun _ => 0⟩ [] rfl hpath hhandle hforward
  have hstored : row ∈ [strictRow] := by
    simpa [Event.rows, Store.Memory.ofRows] using hrow
  exact ⟨hpath, handled, forwarded, hhandle, hforward, hurl, row, hstored, route,
    selection, path, hoffers, hleads, hglued⟩

/-- A replacement that was meant to begin with a slash. -/
def looseRow : Route.Row :=
  { id := "users"
    uri := some "http://users"
    pathPattern := some "/api/**"
    filters := .array [.string "RewritePath=/api/(.*),$1"] }

/-- The path of a request goes on with the name of the host. -/
theorem stray_request_leaves_users :
    IsRooted strayRequest.path ∧
      ∃ handled forwarded, handleFirst [looseRow] strayRequest = .ok handled ∧
        handled.decision = .forward forwarded ∧
        (∀ path query, IsRooted path →
          forwarded.url ≠ baseUrl "http://users" ++ path ++ query) ∧
        (siteOf forwarded.url).toOption.bind Net.Url.host =
          some "users.evil.example" ∧
        (siteOf (baseUrl "http://users" ++ "/")).toOption.bind Net.Url.host =
          some "users" := by
  have hsent : sentUrl? [looseRow] strayRequest =
      some "http://users.evil.example/x" := by decide +kernel
  obtain ⟨handled, forwarded, hhandle, hforward, hurl⟩ := forward_of_sentUrl? hsent
  refine ⟨by decide, handled, forwarded, hhandle, hforward, ?_, ?_, by decide +kernel⟩
  · intro path query hrooted hsame
    obtain ⟨rest, hrest⟩ := Route.isRooted_iff.mp hrooted
    have hbase : baseUrl "http://users" = "http://users" := by decide +kernel
    have hchars := congrArg String.toList (hurl.symm.trans hsame)
    rw [hbase] at hchars
    simp [hrest] at hchars
  · rw [hurl]
    decide +kernel

end Gateway

end EdgeGateway
