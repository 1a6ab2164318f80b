import EdgeGateway.Document.Decode
import EdgeGateway.Route.Row
import EdgeGateway.Store.Error
import EdgeGateway.Time.Duration
import EdgeGateway.Unicode.Lowercase

/-!
# The in-process store

Route rows in order, and preferences by tenant and resource.  Tenants are
compared in lower case, resources exactly.  The store counts what it is asked
and can be told to fail or to be slow; a load that is slow reads its rows at its
end.
-/

namespace EdgeGateway.Store

/-- The API version that a tenant prefers for a resource. -/
structure Preference where
  tenantId : String
  resourceKey : String
  preferredVersion : String
  fallbackVersion : Option String := none
  updatedAt : Option Timestamp := none
  deriving Repr, DecidableEq

namespace Preference

def decode (document : Document) : Decoded Preference := do
  let fields ← document.asFields
    ["tenant_id", "resource_key", "preferred_version", "fallback_version",
     "updated_at"]
  return {
    tenantId := ← fields.required "tenant_id" Document.asText
    resourceKey := ← fields.required "resource_key" Document.asText
    preferredVersion := ← fields.required "preferred_version" Document.asText
    fallbackVersion := ← fields.optional "fallback_version" Document.asText
    updatedAt := ← fields.withDefault "updated_at" none Route.Row.decodeTime }

/-- A preference without the time of its last change. -/
def toJson (preference : Preference) : Json :=
  .object
    [("tenant_id", .string preference.tenantId),
     ("resource_key", .string preference.resourceKey),
     ("preferred_version", .string preference.preferredVersion),
     ("fallback_version", .ofOption .string preference.fallbackVersion)]

end Preference

structure PreferenceKey where
  tenant : String
  resource : String
  deriving Repr, DecidableEq

namespace PreferenceKey

def of (tenant resource : String) : PreferenceKey :=
  ⟨Unicode.lowercase tenant, resource⟩

end PreferenceKey

/-- A preference takes the place of an earlier one with its key. -/
def putPreference (preference : Preference)
    (known : List (PreferenceKey × Preference)) :
    List (PreferenceKey × Preference) :=
  let key := PreferenceKey.of preference.tenantId preference.resourceKey
  (key, preference) :: known.filter fun (other, _) => other ≠ key

structure Memory where
  routes : List Route.Row := []
  preferences : List (PreferenceKey × Preference) := []
  routeLoads : Nat := 0
  preferenceLookups : Nat := 0
  routesUnavailable : Bool := false
  preferencesUnavailable : Bool := false
  routeLatency : Duration := .zero
  deriving Repr

namespace Memory

def ofRows (routes : List Route.Row) (preferences : List Preference) : Memory where
  routes := routes
  preferences :=
    preferences.foldl (fun known preference => putPreference preference known) []

def insertPreference (store : Memory) (preference : Preference) : Memory :=
  { store with preferences := putPreference preference store.preferences }

/-- A load begins: it is counted before it waits. -/
def beginLoad (store : Memory) : Memory :=
  { store with routeLoads := store.routeLoads + 1 }

/-- What a load reads at its end: the enabled rows in order. -/
def readRoutes (store : Memory) : Except Error (List Route.Row) :=
  if store.routesUnavailable then .error .unavailable
  else .ok (store.routes.filter Route.Row.enabled)

/-- Looks for a preference, without counting. -/
def preference? (store : Memory) (tenant resource : String) : Option Preference :=
  (store.preferences.find? fun (key, _) =>
    key = PreferenceKey.of tenant resource).map Prod.snd

def findPreference (store : Memory) (tenant resource : String) :
    Except Error (Option Preference) × Memory :=
  let counted := { store with preferenceLookups := store.preferenceLookups + 1 }
  if store.preferencesUnavailable then (.error .unavailable, counted)
  else (.ok (store.preference? tenant resource), counted)

end Memory

/-- What a seed file holds. -/
structure Seed where
  routes : List Route.Row
  preferences : List Preference
  deriving Repr

namespace Seed

def decode (document : Document) : Decoded Seed := do
  let fields ← document.asFields ["routes", "preferences"]
  return {
    routes := ← fields.withDefault "routes" [] (Document.asList Route.Row.decode)
    preferences := ← fields.withDefault "preferences" []
      (Document.asList Preference.decode) }

def toStore (seed : Seed) : Memory := .ofRows seed.routes seed.preferences

end Seed

end EdgeGateway.Store
