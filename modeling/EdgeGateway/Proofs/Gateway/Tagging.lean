import EdgeGateway.Proofs.Config.Valid
import EdgeGateway.Proofs.Gateway.Writers

/-!
# The region of a request

A request is tagged with the region that is active when it comes in.  The region
is written on the request that is sent and on the response, each time as the one
value of its header, over whatever the client, the filters or the backend have
put there; its header has a legal name in every accepted configuration.

Two things keep it from being seen.  A region whose name is no legal value is not
written, and a field that the gateway writes later takes its place if it has the
same name: on requests the version, the tenant and the id, on responses the id.
-/

namespace EdgeGateway.Gateway

open Http (Headers)
open Http.Headers (lastWriter? lastWriter?_append values_setAll writes)

/-- What the gateway writes on a request after the region. -/
def laterFields (settings : Settings) (context : Http.Context) :
    List (String × String) :=
  optionalField settings.versionHeader context.effectiveVersion ++
    optionalField settings.tenantHeader context.tenantId ++
    [(requestIdHeader, context.correlationId)]

theorem contextFields_eq {context : Http.Context} {region : String}
    (hregion : context.region = some region) (settings : Settings) :
    contextFields settings context =
      (settings.regionHeader, region) :: laterFields settings context := by
  simp [contextFields, laterFields, optionalField, hregion]

theorem tags_eq {context : Http.Context} {region : String}
    (hregion : context.region = some region) (settings : Settings) :
    tags settings context =
      [(settings.regionHeader, region), (requestIdHeader, context.correlationId)] := by
  simp [tags, optionalField, hregion]

/-- A legal field leaves its value unless a later one writes its name. -/
theorem lastWriter?_of_later_none {name value : String}
    (hname : Http.isHeaderName name = true) (hvalue : Http.isHeaderValue value = true)
    (before : List (String × String)) {later : List (String × String)}
    (hlater : lastWriter? later name = none) :
    lastWriter? (before ++ (name, value) :: later) name = some (name, value) := by
  have hwrites : writes name (name, value) = true := by
    simp [writes, hname, hvalue, Text.equalIgnoringCase]
  calc
    lastWriter? (before ++ (name, value) :: later) name =
        ((lastWriter? later name).or (lastWriter? [(name, value)] name)).or
          (lastWriter? before name) := by
      rw [lastWriter?_append, ← List.singleton_append, lastWriter?_append]
    _ = some (name, value) := by
      rw [hlater, Http.Headers.lastWriter?_singleton, if_pos hwrites]
      rfl

/-- A request of an accepted configuration is tagged with the region that is
active when it comes in.  If that is a legal value, it is the one value of its
header on the request that is sent unless the version, the tenant or the id
takes its place, and on the response unless the id does. -/
theorem region_written_once (config : Config.Gateway)
    (haccepted : config.validate = .ok ()) {freshId : String}
    {rollBelow : Nat → Nat} {request : Http.Request} {state : State}
    {handled : Handled}
    (hhandle : handle (.ofConfig config) freshId rollBelow request state =
      .ok handled) :
    let settings := Settings.ofConfig config
    let name := settings.regionHeader
    let region := state.failover.currentRegion config.failover
    handled.context.region = some region ∧
    (Http.isHeaderValue region = true →
      (∀ forwarded, handled.decision = .forward forwarded →
        lastWriter? (laterFields settings handled.context) name = none →
          forwarded.headers.values name = [region]) ∧
      (lastWriter? [(requestIdHeader, handled.context.correlationId)] name = none →
        ∀ headers,
          (tagResponse settings handled.context headers).values name = [region])) := by
  intro settings name region
  have hname : Http.isHeaderName name = true :=
    ((Config.Gateway.validate_eq_ok_iff config).mp haccepted).regionHeader
  have hregion : handled.context.region = some region := by
    obtain ⟨resolved, -, hcontext⟩ := context_of_handle hhandle
    rw [hcontext]
    rfl
  refine ⟨hregion, fun hvalue => ⟨?_, ?_⟩⟩
  · intro forwarded hforward hlater
    obtain ⟨route, selection, -, rfl⟩ := match_of_forward hhandle hforward
    have hlast : lastWriter? (writers settings handled.context route) name =
        some (name, region) := by
      rw [writers, contextFields_eq hregion]
      exact lastWriter?_of_later_none hname hvalue _ hlater
    apply (values_forwardRequest settings handled.context request route selection
      name).trans
    rw [hlast]
  · intro hlater headers
    have hlast : lastWriter? (tags settings handled.context) name =
        some (name, region) := by
      rw [tags_eq hregion]
      exact lastWriter?_of_later_none hname hvalue [] hlater
    rw [tagResponse_eq, values_setAll, hlast]

/-! ## A request of a tenant -/

/-- A client that claims to be elsewhere. -/
def tenantRequest : Http.Request :=
  .ofTarget "GET" "/orders" <| .ofList
    [("x-gateway-region", "elsewhere"), ("x-tenant-id", "T1"), ("x-request-id", "r1")]

def ordersRow : Route.Row :=
  { id := "orders"
    uri := some "http://orders:8080"
    filters := .array [.string "AddRequestHeader=X-Gateway-Region,nowhere"] }

def ordersPreference : Store.Preference :=
  { tenantId := "T1", resourceKey := "/orders", preferredVersion := "v3" }

/-- What a gateway does with the request while a region is active. -/
def handleTenant (config : Config.Gateway) (active : String) :
    Except ClockFault Handled :=
  handle (.ofConfig config) "fresh" (fun _ => 0) tenantRequest
    { State.initial config (.ofRows [ordersRow] [ordersPreference]) with
      failover := ⟨active, 0, none⟩ }

def twoRegions : Config.Gateway :=
  { failover :=
      { enabled := true, primaryRegion := "eu-west", backupRegions := ["eu-central"] } }

theorem backup_written_once :
    twoRegions.validate = .ok () ∧
      ∃ handled forwarded, handleTenant twoRegions "eu-central" = .ok handled ∧
        handled.decision = .forward forwarded ∧
        handled.context.effectiveVersion = some "v3" ∧
        forwarded.headers.values "x-gateway-region" = ["eu-central"] ∧
        (tagResponse (.ofConfig twoRegions) handled.context {}).values
          "x-gateway-region" = ["eu-central"] := by
  have haccepted : twoRegions.validate = .ok () := rfl
  have hchecked : (handleTenant twoRegions "eu-central").toOption.any
      (fun handled => handled.decision.forwarded?.isSome &&
        handled.context.effectiveVersion = some "v3" &&
        (lastWriter? (laterFields (.ofConfig twoRegions) handled.context)
          "x-gateway-region").isNone &&
        (lastWriter? [(requestIdHeader, handled.context.correlationId)]
          "x-gateway-region").isNone) = true := by
    decide +kernel
  obtain ⟨handled, hhandle, htests⟩ := exists_ok_of_any hchecked
  simp only [Bool.and_eq_true, Option.isNone_iff_eq_none, decide_eq_true_eq] at htests
  obtain ⟨⟨⟨hforward, hversion⟩, hlater⟩, hid⟩ := htests
  obtain ⟨forwarded, hforward⟩ := Option.isSome_iff_exists.mp hforward
  have hforward := Decision.forwarded?_eq_some_iff.mp hforward
  obtain ⟨-, hwritten⟩ := region_written_once twoRegions haccepted hhandle
  obtain ⟨hrequest, hresponse⟩ := hwritten (by decide +kernel)
  exact ⟨haccepted, handled, forwarded, hhandle, hforward, hversion,
    hrequest forwarded hforward hlater, hresponse hid {}⟩

/-- The default configuration with another name for the region header. -/
def renamed (name : String) : Config.Gateway := { failover := { regionHeader := name } }

/-- A region whose name is no legal value. -/
def brokenName : Config.Gateway := { failover := { primaryRegion := "eu\nwest" } }

/-- The id, the tenant or the version takes the place of the region, or the region
is not written at all. -/
def hiddenOnRequests : List Config.Gateway :=
  [renamed "X-Request-Id", renamed "x-tenant-id", renamed "x-api-version", brokenName]

def hiddenOnResponses : List Config.Gateway := [renamed "X-Request-Id", brokenName]

/-- Accepted configurations whose active region is not seen. -/
theorem active_region_not_seen :
    (∀ config ∈ hiddenOnRequests,
      config.validate = .ok () ∧
        ∃ handled forwarded,
          handleTenant config config.failover.primaryRegion = .ok handled ∧
          handled.decision = .forward forwarded ∧
          forwarded.headers.values config.failover.regionHeader ≠
            [config.failover.primaryRegion]) ∧
    ∀ config ∈ hiddenOnResponses,
      ∃ handled, handleTenant config config.failover.primaryRegion = .ok handled ∧
        (tagResponse (.ofConfig config) handled.context {}).values
          config.failover.regionHeader ≠ [config.failover.primaryRegion] := by
  constructor
  · have hfaultless : ∀ config ∈ hiddenOnRequests, config.faults = [] := by
      decide +kernel
    have hchecked : ∀ config ∈ hiddenOnRequests,
        (handleTenant config config.failover.primaryRegion).toOption.any
          (fun handled => handled.decision.forwarded?.any fun forwarded =>
            forwarded.headers.values config.failover.regionHeader ≠
              [config.failover.primaryRegion]) = true := by
      decide +kernel
    intro config hconfig
    obtain ⟨handled, hhandle, htest⟩ := exists_ok_of_any (hchecked config hconfig)
    obtain ⟨forwarded, hforward, hother⟩ := (Option.any_eq_true _ _).mp htest
    refine ⟨?_, handled, forwarded, hhandle,
      Decision.forwarded?_eq_some_iff.mp hforward, of_decide_eq_true hother⟩
    rw [Config.Gateway.validate_eq_ok_iff, ← Config.Gateway.faults_eq_nil_iff]
    exact hfaultless config hconfig
  · have hchecked : ∀ config ∈ hiddenOnResponses,
        (handleTenant config config.failover.primaryRegion).toOption.any
          (fun handled =>
            (tagResponse (.ofConfig config) handled.context {}).values
              config.failover.regionHeader ≠
                [config.failover.primaryRegion]) = true := by
      decide +kernel
    intro config hconfig
    obtain ⟨handled, hhandle, htest⟩ := exists_ok_of_any (hchecked config hconfig)
    exact ⟨handled, hhandle, of_decide_eq_true htest⟩

end EdgeGateway.Gateway
