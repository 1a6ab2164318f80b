import EdgeGateway.Config.Basic
import EdgeGateway.Observe.Counter
import EdgeGateway.Store.Memory
import EdgeGateway.Text.Blank
import EdgeGateway.Time.Expiring
import EdgeGateway.Version.Resource

/-!
# Version preferences

The version that a tenant prefers for a resource is looked up in the store under
the key of the resource.  When there is no row for a key of two segments, one
fallback is tried: without the first segment if that is a namespace, and without
the second otherwise.  What was found, be it nothing, is remembered for a fixed
time; a failure of the store counts as no preference and is not remembered.
-/

namespace EdgeGateway.Version

open Observe (Counter)
open Store (Memory Preference PreferenceKey)

structure Settings where
  ttl : Duration
  namespaces : List String
  deriving Repr, DecidableEq

namespace Settings

def normalizeNamespaces (names : List String) : List String :=
  (names.map fun name => Unicode.lowercase (Text.trim name)).filter (· ≠ "")

/-- A lifetime of zero stands for the default. -/
def of (ttl : Duration) (namespaces : List String) : Settings :=
  ⟨Config.effectiveTtl Config.defaultPreferenceTtl ttl,
    normalizeNamespaces namespaces⟩

end Settings

/-- Remembered look-ups. -/
abbrev PreferenceCache := Expiring PreferenceKey (Option Preference)

/-- The key that is tried when there is no row for a key of two segments. -/
def fallbackKey? (namespaces : List String) (resource : String) :
    Option String := do
  let rest ← Text.stripPrefix? "/" resource
  let (first, second) ← Text.splitFirst? '/' rest
  return "/" ++ (if namespaces.contains first then second else first)

/-- Asks the store for a key and then for its fallback. -/
def findInStore (namespaces : List String) (tenant resource : String)
    (store : Memory) : Except Store.Error (Option Preference) × Memory :=
  match store.findPreference tenant resource with
  | (.ok none, store) =>
      match fallbackKey? namespaces resource with
      | some fallback => store.findPreference tenant fallback
      | none => (.ok none, store)
  | found => found

structure ResolveStep where
  cache : PreferenceCache
  store : Memory
  preference : Option Preference
  counted : List Counter := []

/-- The preference of a tenant for a path. -/
def resolve (settings : Settings) (now : Instant) (tenantId : Option String)
    (path : String) (store : Memory) (cache : PreferenceCache) :
    Except ClockFault ResolveStep :=
  let tenant := Text.trim (tenantId.getD "")
  if tenant = "" then .ok ⟨cache, store, none, [.versionPreference .noTenant]⟩
  else
    match normalizeResource? path with
    | none => .ok ⟨cache, store, none, []⟩
    | some resource =>
        let key := PreferenceKey.of tenant resource
        match cache.lookup now key with
        | (some preference, cache) =>
            .ok ⟨cache, store, preference, [.versionPreference .hit]⟩
        | (none, cache) =>
            match findInStore settings.namespaces tenant resource store with
            | (.ok preference, store) => do
                let cache ← cache.store now settings.ttl key preference
                return ⟨cache, store, preference, [.versionPreference .miss]⟩
            | (.error _, store) =>
                .ok ⟨cache, store, none,
                  [.versionPreference .miss, .versionPreference .storeError]⟩

end EdgeGateway.Version
