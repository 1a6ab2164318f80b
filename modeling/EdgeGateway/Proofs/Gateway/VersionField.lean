import EdgeGateway.Proofs.Gateway.Writers

/-!
# The version that a backend sees

The version of a request is concluded from its tenant and its path, so two
requests that differ only in what their clients sent under the version header are
given the same version.  If there is one, and it is a legal value, a backend sees
it and nothing else under that header, along every route that adds no fields.

Without such a version the gateway writes nothing there and takes nothing away.
A backend then sees what the client sent, unless the route removes it.
-/

namespace EdgeGateway.Gateway

open Http (Headers)
open Http.Headers (lastWriter? lastWriter?_append lastWriter?_singleton writes)

/-! ## Requests that differ in one field -/

/-- Two requests that differ at most in the values of one header field. -/
structure AlikeBut (name : String) (first second : Http.Request) : Prop where
  method : first.method = second.method
  path : first.path = second.path
  query : first.query = second.query
  headers : ∀ other, Text.equalIgnoringCase name other = false →
    first.headers.values other = second.headers.values other

theorem AlikeBut.header? {name other : String} {first second : Http.Request}
    (halike : AlikeBut name first second)
    (hother : Text.equalIgnoringCase name other = false) :
    first.header? other = second.header? other := by
  simp only [Http.Request.header?, Headers.text?, Headers.first?,
    halike.headers other hother]

/-- The tenant is not read from another field. -/
theorem AlikeBut.tenantId {name tenantHeader : String} {first second : Http.Request}
    (halike : AlikeBut name first second)
    (hother : Text.equalIgnoringCase name tenantHeader = false)
    (firstId secondId : String) :
    (Http.Context.ofRequest first tenantHeader firstId).tenantId =
      (Http.Context.ofRequest second tenantHeader secondId).tenantId := by
  simp only [Http.Context.ofRequest, halike.header? hother]

/-- Requests of one tenant for one path are given the same version. -/
theorem effectiveVersion_congr {plan : Plan} {name : String}
    {first second : Http.Request} (halike : AlikeBut name first second)
    (hother : Text.equalIgnoringCase name plan.settings.tenantHeader = false)
    {firstChance secondChance : Chance} {state : State}
    {firstHandled secondHandled : Handled}
    (hfirst : handle plan firstChance.freshId firstChance.rollBelow first state =
      .ok firstHandled)
    (hsecond : handle plan secondChance.freshId secondChance.rollBelow second state =
      .ok secondHandled) :
    firstHandled.context.effectiveVersion =
      secondHandled.context.effectiveVersion := by
  obtain ⟨resolved, hresolved, hfirst⟩ := context_of_handle hfirst
  obtain ⟨others, hothers, hsecond⟩ := context_of_handle hsecond
  have hsame : resolved = others := by
    apply Except.ok.inj
    calc
      (.ok resolved : Except ClockFault Version.ResolveStep) =
          lookUpVersion plan firstChance.freshId first state := hresolved.symm
      _ = lookUpVersion plan secondChance.freshId second state := by
        rw [lookUpVersion, lookUpVersion, halike.path,
          halike.tenantId hother firstChance.freshId secondChance.freshId]
      _ = .ok others := hothers
  rw [hfirst, hsecond, hsame]
  rfl

/-! ## One request -/

/-- Whether the header names are those of the default configuration. -/
def Settings.HasDefaultNames (settings : Settings) : Prop :=
  settings = { Settings.ofConfig {} with replacePath := settings.replacePath }

/-- Whether a route adds no header fields. -/
def AddsNothing (route : Route.Resolved) : Prop :=
  route.filters.filterMap Route.Filter.addition? = []

/-- What the client sent under a name, unless it is withheld. -/
def keptValues (route : Route.Resolved) (request : Http.Request) (name : String) :
    List String :=
  if isWithheld route name then [] else request.headers.values name

/-- What a backend sees as the version of a request. -/
def seenVersion (version : Option String) (route : Route.Resolved)
    (request : Http.Request) : List String :=
  match version.filter Http.isHeaderValue with
  | some version => [version]
  | none => keptValues route request "x-api-version"

theorem lastWriter?_optionalField_of_ne {field name : String}
    (hother : Text.equalIgnoringCase field name = false) (value : Option String) :
    lastWriter? (optionalField field value) name = none := by
  cases value with
  | none => rfl
  | some value =>
      rw [Http.Headers.lastWriter?_eq_none_iff]
      simp [optionalField, writes, hother]

theorem lastWriter?_optionalField {name : String}
    (hname : Http.isHeaderName name = true) (value : Option String) :
    lastWriter? (optionalField name value) name =
      (value.filter Http.isHeaderValue).map fun value => (name, value) := by
  cases value with
  | none => rfl
  | some value =>
      have hwrites : writes name (name, value) = Http.isHeaderValue value := by
        simp [writes, hname, Text.equalIgnoringCase]
      change lastWriter? [(name, value)] name = _
      rw [lastWriter?_singleton, hwrites]
      cases hvalue : Http.isHeaderValue value <;> simp [Option.filter, hvalue]

/-- With the default names nothing but the version is written under its header. -/
theorem lastWriter?_contextFields {settings : Settings}
    (hnames : settings.HasDefaultNames) (context : Http.Context) :
    lastWriter? (contextFields settings context) "x-api-version" =
      (context.effectiveVersion.filter Http.isHeaderValue).map fun version =>
        ("x-api-version", version) := by
  have hfields : contextFields settings context =
      optionalField "x-gateway-region" context.region ++
        optionalField "x-api-version" context.effectiveVersion ++
        optionalField "x-tenant-id" context.tenantId ++
        optionalField requestIdHeader (some context.correlationId) := by
    rw [hnames]
    rfl
  have hregion : Text.equalIgnoringCase "x-gateway-region" "x-api-version" = false := by
    decide +kernel
  have htenant : Text.equalIgnoringCase "x-tenant-id" "x-api-version" = false := by
    decide +kernel
  have hid : Text.equalIgnoringCase requestIdHeader "x-api-version" = false := by
    decide +kernel
  have hname : Http.isHeaderName "x-api-version" = true := by decide +kernel
  simp only [hfields, lastWriter?_append, lastWriter?_optionalField_of_ne hregion,
    lastWriter?_optionalField_of_ne htenant, lastWriter?_optionalField_of_ne hid,
    lastWriter?_optionalField hname, Option.none_or, Option.or_none]

/-- A backend sees the version that was concluded, or else what is kept. -/
theorem values_version {settings : Settings} (hnames : settings.HasDefaultNames)
    {route : Route.Resolved} (hbare : AddsNothing route) (context : Http.Context)
    (request : Http.Request) (selection : Route.Selection) :
    (forwardRequest settings context request
        (.ofSelection request route selection)).headers.values "x-api-version" =
      seenVersion context.effectiveVersion route request := by
  have hlast : lastWriter? (writers settings context route) "x-api-version" =
      (context.effectiveVersion.filter Http.isHeaderValue).map fun version =>
        ("x-api-version", version) := by
    rw [writers, show route.filters.filterMap _ = [] from hbare, List.nil_append]
    exact lastWriter?_contextFields hnames context
  rw [values_forwardRequest, hlast, seenVersion]
  cases context.effectiveVersion.filter Http.isHeaderValue <;> rfl

/-- If a request is sent along a route that adds no fields, its version is seen. -/
def SentWithVersion (plan : Plan) (chance : Chance) (request : Http.Request)
    (state : State) (handled : Handled) : Prop :=
  ∀ sent, handled.decision = .forward sent →
    ∃ route selection, Along chance.rollBelow request state route selection ∧
      sent = forwardRequest plan.settings handled.context request
        (.ofSelection request route selection) ∧
      (AddsNothing route →
        sent.headers.values "x-api-version" =
          seenVersion handled.context.effectiveVersion route request)

theorem sentWithVersion {config : Config.Gateway}
    (hnames : (Settings.ofConfig config).HasDefaultNames) {chance : Chance}
    {request : Http.Request} {state : State} {handled : Handled}
    (hhandle : handle (.ofConfig config) chance.freshId chance.rollBelow request state =
      .ok handled) :
    SentWithVersion (.ofConfig config) chance request state handled := by
  intro sent hsent
  obtain ⟨route, selection, halong, rfl⟩ := match_of_forward hhandle hsent
  refine ⟨route, selection, halong, rfl, ?_⟩
  intro hbare
  exact values_version hnames hbare handled.context request selection

/-- Requests that differ only under the version header are given one version.  If
it is legal, backends see it alone; otherwise they see what each client sent. -/
theorem version_of_alike_requests (config : Config.Gateway)
    (hnames : (Settings.ofConfig config).HasDefaultNames) (state : State)
    (firstChance secondChance : Chance) {first second : Http.Request}
    (halike : AlikeBut "x-api-version" first second)
    {firstHandled secondHandled : Handled}
    (hfirst : handle (.ofConfig config) firstChance.freshId firstChance.rollBelow
      first state = .ok firstHandled)
    (hsecond : handle (.ofConfig config) secondChance.freshId secondChance.rollBelow
      second state = .ok secondHandled) :
    firstHandled.context.effectiveVersion = secondHandled.context.effectiveVersion ∧
      SentWithVersion (.ofConfig config) firstChance first state firstHandled ∧
      SentWithVersion (.ofConfig config) secondChance second state secondHandled := by
  have htenant : Text.equalIgnoringCase "x-api-version"
      (Plan.ofConfig config).settings.tenantHeader = false := by
    have hheader : (Plan.ofConfig config).settings.tenantHeader = "x-tenant-id" :=
      congrArg Settings.tenantHeader hnames
    rw [hheader]
    decide +kernel
  refine ⟨?_, sentWithVersion hnames hfirst, sentWithVersion hnames hsecond⟩
  exact effectiveVersion_congr halike htenant hfirst hsecond

/-! ## A client that names a version -/

/-- The same request with a version of the client's choice. -/
def naming (version : String) (request : Http.Request) : Http.Request :=
  { request with headers := request.headers.append "x-api-version" version }

theorem alikeBut_naming (request : Http.Request) (version : String) :
    AlikeBut "x-api-version" request (naming version request) where
  method := rfl
  path := rfl
  query := rfl
  headers := by
    intro other hother
    simp [naming, Headers.values_append, hother]

/-- A gateway with one route and one preference. -/
def orderState : State :=
  .initial {} <| .ofRows
    [{ id := "orders", uri := some "http://orders:8080" }]
    [{ tenantId := "T1", resourceKey := "/orders", preferredVersion := "v3" }]

def orderChance : Chance := ⟨"fresh", fun _ => 0⟩

def handleOrder (request : Http.Request) : Except ClockFault Handled :=
  handle (.ofConfig {}) orderChance.freshId orderChance.rollBelow request orderState

def plainOrder : Http.Request := .ofTarget "GET" "/orders" {}

def tenantOrder : Http.Request :=
  .ofTarget "GET" "/orders" (.ofList [("x-tenant-id", "T1")])

theorem addsNothing_of_along_order {request : Http.Request} {route : Route.Resolved}
    {selection : Route.Selection}
    (halong : Along orderChance.rollBelow request orderState route selection) :
    AddsNothing route := by
  have hroutes : ∀ route ∈ (orderState.cache.list orderState.now
      orderState.store).routes, AddsNothing route := by
    unfold AddsNothing
    decide +kernel
  obtain ⟨count, hlisted⟩ := halong.listed
  exact hroutes route hlisted

/-- The version that the tenant prefers is seen, whatever the client names. -/
theorem preferred_version_seen :
    ∃ first second firstSent secondSent,
      handleOrder tenantOrder = .ok first ∧
      handleOrder (naming "v9" tenantOrder) = .ok second ∧
      first.decision = .forward firstSent ∧ second.decision = .forward secondSent ∧
      firstSent.headers.values "x-api-version" = ["v3"] ∧
      secondSent.headers.values "x-api-version" = ["v3"] := by
  have hfirst : (handleOrder tenantOrder).toOption.any (fun handled =>
      handled.decision.forwarded?.isSome &&
        handled.context.effectiveVersion = some "v3") = true := by
    decide +kernel
  have hsecond : (handleOrder (naming "v9" tenantOrder)).toOption.any (fun handled =>
      handled.decision.forwarded?.isSome) = true := by
    decide +kernel
  obtain ⟨first, hfirst, htests⟩ := exists_ok_of_any hfirst
  obtain ⟨second, hsecond, hsecondSent⟩ := exists_ok_of_any hsecond
  obtain ⟨hfirstSent, hversion⟩ := Bool.and_eq_true_iff.mp htests
  have hversion := of_decide_eq_true hversion
  obtain ⟨firstSent, hfirstSent⟩ := Option.isSome_iff_exists.mp hfirstSent
  obtain ⟨secondSent, hsecondSent⟩ := Option.isSome_iff_exists.mp hsecondSent
  have hfirstSent := Decision.forwarded?_eq_some_iff.mp hfirstSent
  have hsecondSent := Decision.forwarded?_eq_some_iff.mp hsecondSent
  obtain ⟨hsame, hone, hother⟩ := version_of_alike_requests {} rfl orderState
    orderChance orderChance (alikeBut_naming tenantOrder "v9") hfirst hsecond
  obtain ⟨route, _, halong, -, hseen⟩ := hone firstSent hfirstSent
  obtain ⟨otherRoute, _, hotherAlong, -, hotherSeen⟩ := hother secondSent hsecondSent
  refine ⟨first, second, firstSent, secondSent, hfirst, hsecond, hfirstSent,
    hsecondSent, ?_, ?_⟩
  · rw [hseen (addsNothing_of_along_order halong), hversion]
    rfl
  · rw [hotherSeen (addsNothing_of_along_order hotherAlong), ← hsame, hversion]
    rfl

/-- Without a tenant there is no version, and what the client names is seen. -/
theorem named_version_seen :
    AlikeBut "x-api-version" plainOrder (naming "v9" plainOrder) ∧
      ∃ first second firstSent secondSent,
        handleOrder plainOrder = .ok first ∧
        handleOrder (naming "v9" plainOrder) = .ok second ∧
        first.decision = .forward firstSent ∧ second.decision = .forward secondSent ∧
        second.context.effectiveVersion = none ∧
        firstSent.headers.values "x-api-version" = [] ∧
        secondSent.headers.values "x-api-version" = ["v9"] := by
  have hfirst : (handleOrder plainOrder).toOption.any (fun handled =>
      handled.decision.forwarded?.any fun sent =>
        sent.headers.values "x-api-version" = []) = true := by
    decide +kernel
  have hsecond : (handleOrder (naming "v9" plainOrder)).toOption.any (fun handled =>
      handled.context.effectiveVersion = none &&
        handled.decision.forwarded?.any fun sent =>
          sent.headers.values "x-api-version" = ["v9"]) = true := by
    decide +kernel
  obtain ⟨first, hfirst, htest⟩ := exists_ok_of_any hfirst
  obtain ⟨second, hsecond, htests⟩ := exists_ok_of_any hsecond
  obtain ⟨hversion, hothers⟩ := Bool.and_eq_true_iff.mp htests
  obtain ⟨firstSent, hfirstSent, hnone⟩ := (Option.any_eq_true _ _).mp htest
  obtain ⟨secondSent, hsecondSent, hnamed⟩ := (Option.any_eq_true _ _).mp hothers
  exact ⟨alikeBut_naming plainOrder "v9", first, second, firstSent, secondSent, hfirst,
    hsecond, Decision.forwarded?_eq_some_iff.mp hfirstSent,
    Decision.forwarded?_eq_some_iff.mp hsecondSent, of_decide_eq_true hversion,
    of_decide_eq_true hnone, of_decide_eq_true hnamed⟩

end EdgeGateway.Gateway
