import EdgeGateway.Proofs.Gateway.Destination
import EdgeGateway.Proofs.Gateway.Tagging
import EdgeGateway.Proofs.Version.Replacement

/-!
# The version in a forwarded path

Where paths give way to versions, the version that was concluded for a request
takes the place of the first one in its path.  A backend reads it there and, as long as
no field that is written later goes by the name of the version header, reads it in
that header too.  The names of the fields are free text in the configuration: if the
tenant is written under the name of the version, the tenant is what is left there.
-/

namespace EdgeGateway.Gateway

open Http.Headers (lastWriter?)
open Route.Match (baseUrl)
open Version

/-- What the gateway writes on a request after the version. -/
def fieldsBehindVersion (settings : Settings) (context : Http.Context) :
    List (String × String) :=
  optionalField settings.tenantHeader context.tenantId ++
    [(requestIdHeader, context.correlationId)]

theorem contextFields_of_version {context : Http.Context} {version : String}
    (hversion : context.effectiveVersion = some version) (settings : Settings) :
    contextFields settings context =
      optionalField settings.regionHeader context.region ++
        (settings.versionHeader, version) :: fieldsBehindVersion settings context := by
  simp [contextFields, fieldsBehindVersion, optionalField, hversion]

/-- A version can be written into a header. -/
theorem isHeaderValue_of_isVersion {version : String} (hversion : IsVersion version.toList) :
    Http.isHeaderValue version = true := by
  rw [Http.isHeaderValue, List.all_eq_true]
  intro char hchar
  obtain ⟨hlow, hhigh⟩ := toNat_of_standsInVersion (hversion.standsInVersion char hchar)
  simp [Nat.le_of_lt hlow, Nat.ne_of_lt hhigh]

theorem path_preferVersion {settings : Settings} {context : Http.Context} {version : String}
    (hreplace : settings.replacePath = true)
    (hversion : context.effectiveVersion = some version) (found : Route.Match) :
    (preferVersion settings context found).path = pathWithVersion found.path version := by
  rw [preferVersion, hversion]
  simp [hreplace]

/-- A version that is put into a path takes the place of the first one there, and what
was put in last is what counts; the path still names the same resource.  The path
that is glued to the base of a target has no other first version, and the version
header says the same unless a later field takes its place. -/
theorem first_version_replaced :
    (∀ path version, IsVersion version.toList →
      ((∀ piece ∈ piecesOf path, ¬ IsVersion piece) ∧ pathWithVersion path version = path ∨
        ∃ before first after, FirstVersion (piecesOf path) before first after ∧
          piecesOf (pathWithVersion path version) = before ++ version.toList :: after) ∧
      (piecesOf (pathWithVersion path version)).length = (piecesOf path).length ∧
      pathWithVersion (pathWithVersion path version) version = pathWithVersion path version ∧
      (∀ other, pathWithVersion (pathWithVersion path version) other =
        pathWithVersion path other) ∧
      normalizeResource? (pathWithVersion path version) = normalizeResource? path) ∧
    ∀ config : Config.Gateway, config.validate = .ok () →
      config.versioning.replacePath = true →
      ∀ freshId rollBelow request state handled,
        handle (.ofConfig config) freshId rollBelow request state = .ok handled →
        ∀ forwarded, handled.decision = .forward forwarded →
        ∀ version, handled.context.effectiveVersion = some version →
          IsVersion version.toList →
          let settings := Settings.ofConfig config
          ∃ route selection, Along rollBelow request state route selection ∧
            let path := pathWithVersion
              (Route.Match.ofSelection request route selection).path version
            forwarded.url = baseUrl selection.uri ++ path ++
              (request.query.map ("?" ++ ·)).getD "" ∧
            (∀ first, firstVersion? path = some first → first = version.toList) ∧
            (lastWriter? (fieldsBehindVersion settings handled.context)
                settings.versionHeader = none →
              forwarded.headers.values settings.versionHeader = [version]) := by
  constructor
  · intro path version hversion
    have hpieces := piecesOf_pathWithVersion hversion path
    refine ⟨?_, ?_, pathWithVersion_twice hversion path version,
      pathWithVersion_twice hversion path, normalizeResource?_pathWithVersion hversion path⟩
    · rcases firstVersion_cases (piecesOf path) with hnone | ⟨before, first, after, hfirst⟩
      · exact Or.inl ⟨hnone, pathWithVersion_of_none hnone⟩
      · exact Or.inr ⟨before, first, after, hfirst,
          hpieces.trans (replaceFirstVersion_of_first hfirst)⟩
    · rw [hpieces, length_replaceFirstVersion]
  · intro config haccepted hreplace freshId rollBelow request state handled hhandle forwarded
      hforward version hcontext hversion settings
    obtain ⟨route, selection, halong, rfl⟩ := match_of_forward hhandle hforward
    have hname : Http.isHeaderName settings.versionHeader = true :=
      ((Config.Gateway.validate_eq_ok_iff config).mp haccepted).versionHeader
    have hlegal := isHeaderValue_of_isVersion hversion
    have hpath : (preferVersion settings handled.context
        (.ofSelection request route selection)).path = pathWithVersion _ version :=
      path_preferVersion hreplace hcontext _
    refine ⟨route, selection, halong, ?_, ?_, ?_⟩
    · rw [← hpath]
      exact url_forwardRequest settings handled.context request _
    · intro first hfound
      rw [firstVersion?, piecesOf_pathWithVersion hversion] at hfound
      exact find?_replaceFirstVersion hversion hfound
    · intro hbehind
      have hlast : lastWriter? (writers settings handled.context route)
          settings.versionHeader = some (settings.versionHeader, version) := by
        rw [writers, contextFields_of_version hcontext, ← List.append_assoc]
        exact lastWriter?_of_later_none hname hlegal _ hbehind
      have hvalues := values_forwardRequest settings handled.context request route selection
        settings.versionHeader
      rw [hlast] at hvalues
      exact hvalues

/-! ## A request for another version -/

/-- A tenant that says its name in a header asks for the first version. -/
def firstVersionRequest (tenantHeader : String) : Http.Request :=
  .ofTarget "GET" "/api/v1/orders" <| .ofList [(tenantHeader, "T1"), ("x-request-id", "r1")]

def thirdVersionPreference : Store.Preference :=
  { tenantId := "T1", resourceKey := "/api/orders", preferredVersion := "v3" }

def handleFirstVersion (config : Config.Gateway) : Except ClockFault Handled :=
  handle (.ofConfig config) "fresh" (fun _ => 0)
    (firstVersionRequest config.versioning.tenantHeader)
    (.initial config <|
      .ofRows [{ id := "orders", uri := some "http://orders:8080" }] [thirdVersionPreference])

theorem third_version_in_path_and_header :
    ∃ handled forwarded, handleFirstVersion {} = .ok handled ∧
      handled.decision = .forward forwarded ∧
      forwarded.url = "http://orders:8080/api/v3/orders" ∧
      forwarded.headers.values "x-api-version" = ["v3"] ∧
      normalizeResource? "/api/v3/orders" = normalizeResource? "/api/v1/orders" := by
  have haccepted : ({} : Config.Gateway).validate = .ok () := rfl
  have hchecked : (handleFirstVersion {}).toOption.any (fun handled =>
      handled.context.effectiveVersion = some "v3" &&
        (lastWriter? (fieldsBehindVersion (.ofConfig {}) handled.context)
          "x-api-version").isNone &&
        handled.decision.forwarded?.any fun forwarded =>
          forwarded.url = "http://orders:8080/api/v3/orders") = true := by
    decide +kernel
  obtain ⟨handled, hhandle, htests⟩ := exists_ok_of_any hchecked
  simp only [Bool.and_eq_true, Option.isNone_iff_eq_none, decide_eq_true_eq] at htests
  obtain ⟨⟨hcontext, hbehind⟩, hsent⟩ := htests
  obtain ⟨forwarded, hforward, hurl⟩ := (Option.any_eq_true _ _).mp hsent
  have hforward := Decision.forwarded?_eq_some_iff.mp hforward
  have hversion : IsVersion ("v3" : String).toList := by decide +kernel
  obtain ⟨hpaths, hpipeline⟩ := first_version_replaced
  obtain ⟨-, -, -, -, hkey⟩ := hpaths "/api/v1/orders" "v3" hversion
  obtain ⟨_, _, -, -, -, hheader⟩ := hpipeline {} haccepted rfl _ _ _ _ _ hhandle _ hforward
    "v3" hcontext hversion
  refine ⟨handled, forwarded, hhandle, hforward, of_decide_eq_true hurl, hheader hbehind, ?_⟩
  have hpath : pathWithVersion "/api/v1/orders" "v3" = "/api/v3/orders" := by decide +kernel
  rwa [hpath] at hkey

/-- A configuration in which tenants are named where versions are. -/
def tenantsAsVersions : Config.Gateway := { versioning := { tenantHeader := "x-api-version" } }

/-- The path says the version, and the version header says the tenant. -/
theorem tenant_in_place_of_version :
    tenantsAsVersions.validate = .ok () ∧ tenantsAsVersions.versioning.replacePath = true ∧
      ∃ handled forwarded, handleFirstVersion tenantsAsVersions = .ok handled ∧
        handled.decision = .forward forwarded ∧
        handled.context.effectiveVersion = some "v3" ∧
        forwarded.url = "http://orders:8080/api/v3/orders" ∧
        forwarded.headers.values tenantsAsVersions.versioning.versionHeader = ["T1"] := by
  have hchecked : (handleFirstVersion tenantsAsVersions).toOption.any (fun handled =>
      handled.context.effectiveVersion = some "v3" &&
        handled.decision.forwarded?.any fun forwarded =>
          forwarded.url = "http://orders:8080/api/v3/orders" &&
            forwarded.headers.values tenantsAsVersions.versioning.versionHeader = ["T1"]) =
      true := by
    decide +kernel
  obtain ⟨handled, hhandle, htests⟩ := exists_ok_of_any hchecked
  obtain ⟨hcontext, hsent⟩ := Bool.and_eq_true_iff.mp htests
  obtain ⟨forwarded, hforward, hshown⟩ := (Option.any_eq_true _ _).mp hsent
  obtain ⟨hurl, hheader⟩ := Bool.and_eq_true_iff.mp hshown
  exact ⟨rfl, rfl, handled, forwarded, hhandle, Decision.forwarded?_eq_some_iff.mp hforward,
    of_decide_eq_true hcontext, of_decide_eq_true hurl, of_decide_eq_true hheader⟩

end EdgeGateway.Gateway
