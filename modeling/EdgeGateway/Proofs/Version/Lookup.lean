import EdgeGateway.Proofs.Attempt
import EdgeGateway.Proofs.Time.Expiring
import EdgeGateway.Version.Run

/-!
# Looking a preference up

The store is asked for a key and, without a row for it, for the fallback of the
key.  What it says depends on the rows of these keys and on its being available.
A resolution asks the cache first, and the store only where that has no answer.
-/

namespace EdgeGateway

open Store (Memory Preference PreferenceKey)

namespace Store.Memory

def row? (store : Memory) (key : PreferenceKey) : Option Preference :=
  (store.preferences.find? fun (known, _) => known = key).map Prod.snd

def countingLookups (store : Memory) (count : Nat) : Memory :=
  { store with preferenceLookups := store.preferenceLookups + count }

theorem row?_insertPreference (store : Memory) (preference : Preference)
    (key : PreferenceKey) :
    (store.insertPreference preference).row? key =
      if key = .of preference.tenantId preference.resourceKey then some preference
      else store.row? key := by
  have hfilter : ∀ (changed : PreferenceKey)
      (known : List (PreferenceKey × Preference)), key ≠ changed →
        (known.filter fun (other, _) => other ≠ changed).find?
            (fun (other, _) => other = key) =
          known.find? fun (other, _) => other = key := by
    intro changed known hother
    rw [List.find?_filter]
    congr 1
    funext ⟨other, row⟩
    by_cases hsame : other = key
    · simp [hsame, hother]
    · simp [hsame]
  unfold row? insertPreference putPreference
  by_cases hsame : key = .of preference.tenantId preference.resourceKey
  · simp [hsame]
  · rw [if_neg hsame, List.find?_cons_of_neg (by simpa using Ne.symm hsame),
      hfilter _ _ hsame]

end Store.Memory

namespace Version

/-- The keys that the store is asked for, in order. -/
def triedKeys (namespaces : List String) (key : PreferenceKey) :
    List PreferenceKey :=
  match fallbackKey? namespaces key.resource with
  | some fallback => [key, ⟨key.tenant, fallback⟩]
  | none => [key]

/-- What the store says to a key. -/
def plainLookup (namespaces : List String) (store : Memory) (key : PreferenceKey) :
    Except Store.Error (Option Preference) :=
  if store.preferencesUnavailable then .error .unavailable
  else .ok ((triedKeys namespaces key).findSome? store.row?)

theorem findPreference_eq (store : Memory) (tenant resource : String) :
    store.findPreference tenant resource =
      (if store.preferencesUnavailable then .error .unavailable
        else .ok (store.row? (.of tenant resource)),
        store.countingLookups 1) := by
  unfold Memory.findPreference
  split <;> rfl

/-- The store is asked once or twice, and changes in nothing but that. -/
theorem findInStore_eq (namespaces : List String) (tenant resource : String)
    (store : Memory) :
    ∃ count, count ≤ 2 ∧
      findInStore namespaces tenant resource store =
        (plainLookup namespaces store (.of tenant resource),
          store.countingLookups count) := by
  have hresource : (PreferenceKey.of tenant resource).resource = resource := rfl
  unfold findInStore plainLookup triedKeys
  rw [findPreference_eq, hresource]
  by_cases hunavailable : store.preferencesUnavailable
  · exact ⟨1, by omega, by simp [hunavailable]⟩
  · cases hrow : store.row? (.of tenant resource) with
    | some preference =>
        refine ⟨1, by omega, ?_⟩
        cases fallbackKey? namespaces resource <;> simp [hunavailable, hrow]
    | none =>
        cases fallbackKey? namespaces resource with
        | none => exact ⟨1, by omega, by simp [hunavailable, hrow]⟩
        | some fallback =>
            refine ⟨2, Nat.le_refl _, ?_⟩
            -- the row of the fallback is found as before the first question
            have hagain : (store.countingLookups 1).findPreference tenant fallback =
                (.ok (store.row? (.of tenant fallback)),
                  store.countingLookups 2) := by
              rw [findPreference_eq]
              exact congrArg (·, store.countingLookups 2) (if_neg hunavailable)
            have hfallback : (⟨(PreferenceKey.of tenant resource).tenant, fallback⟩ :
                PreferenceKey) = .of tenant fallback := rfl
            simp [hunavailable, hrow, hagain, hfallback]

/-- Stores that agree on the tried keys say the same. -/
theorem plainLookup_congr {namespaces : List String} {left right : Memory}
    {key : PreferenceKey}
    (havailable : left.preferencesUnavailable = right.preferencesUnavailable)
    (hrows : ∀ tried ∈ triedKeys namespaces key, left.row? tried = right.row? tried) :
    plainLookup namespaces left key = plainLookup namespaces right key := by
  have hfound : ∀ keys : List PreferenceKey,
      (∀ tried ∈ keys, left.row? tried = right.row? tried) →
        keys.findSome? left.row? = keys.findSome? right.row? := by
    intro keys hkeys
    induction keys with
    | nil => rfl
    | cons tried keys ih =>
        rw [List.findSome?_cons, List.findSome?_cons, hkeys tried List.mem_cons_self,
          ih fun other hother => hkeys other (List.mem_cons_of_mem _ hother)]
  unfold plainLookup
  rw [havailable, hfound _ hrows]

/-! ## Asking the cache first -/

/-- The key of a tenant for a path, if there are both. -/
def key? (tenantId : Option String) (path : String) : Option PreferenceKey :=
  let tenant := Text.trim (tenantId.getD "")
  if tenant = "" then none else (normalizeResource? path).map (.of tenant)

section Resolution

variable {settings : Settings} {now : Instant} {tenantId : Option String}
variable {path : String} {store : Memory} {cache : PreferenceCache}
variable {key : PreferenceKey}

/-- A key is that of a tenant and of a resource that there are. -/
theorem exists_of_key? (hkey : key? tenantId path = some key) :
    Text.trim (tenantId.getD "") ≠ "" ∧
      ∃ resource, normalizeResource? path = some resource ∧
        PreferenceKey.of (Text.trim (tenantId.getD "")) resource = key := by
  by_cases htenant : Text.trim (tenantId.getD "") = ""
  · simp [key?, htenant] at hkey
  · exact ⟨htenant, Option.map_eq_some_iff.mp (by simpa [key?, htenant] using hkey)⟩

/-- Without a key nothing is asked. -/
theorem resolve_of_keyless (hkey : key? tenantId path = none) :
    resolve settings now tenantId path store cache =
      .ok ⟨cache, store, none,
        if Text.trim (tenantId.getD "") = "" then [.versionPreference .noTenant]
        else []⟩ := by
  by_cases htenant : Text.trim (tenantId.getD "") = ""
  · simp [resolve, htenant]
  · have hresource : normalizeResource? path = none := by
      simpa [key?, htenant] using hkey
    simp [resolve, htenant, hresource]

/-- A preference that is remembered is the answer. -/
theorem resolve_of_live (settings : Settings) (store : Memory)
    {preference : Option Preference} (hkey : key? tenantId path = some key)
    (hlive : cache.live? now key = some preference) :
    resolve settings now tenantId path store cache =
      .ok ⟨(cache.lookup now key).2, store, preference,
        [.versionPreference .hit]⟩ := by
  obtain ⟨htenant, resource, hresource, rfl⟩ := exists_of_key? hkey
  have hlookup : cache.lookup now _ = (some preference, _) := Prod.ext hlive rfl
  simp only [resolve, htenant, hresource, if_false]
  rw [hlookup]

/-- What is not remembered is asked of the store, and kept unless that fails. -/
theorem resolve_of_forgotten (settings : Settings) (store : Memory)
    (hkey : key? tenantId path = some key) (hlive : cache.live? now key = none) :
    ∃ count, count ≤ 2 ∧ resolve settings now tenantId path store cache =
      match plainLookup settings.namespaces store key with
      | .error _ => .ok ⟨(cache.lookup now key).2, store.countingLookups count,
          none, [.versionPreference .miss, .versionPreference .storeError]⟩
      | .ok preference =>
          ((cache.lookup now key).2.store now settings.ttl key preference).map
            fun kept => ⟨kept, store.countingLookups count, preference,
              [.versionPreference .miss]⟩ := by
  obtain ⟨htenant, resource, hresource, rfl⟩ := exists_of_key? hkey
  have hlookup : cache.lookup now _ = (none, _) := Prod.ext hlive rfl
  obtain ⟨count, hcount, hfind⟩ := findInStore_eq settings.namespaces
    (Text.trim (tenantId.getD "")) resource store
  refine ⟨count, hcount, ?_⟩
  simp only [resolve, htenant, hresource, hfind, if_false]
  rw [hlookup]
  cases plainLookup settings.namespaces store _ <;> rfl

/-- Resolving a version asks the store at most twice, and counts what became of the
preference. -/
theorem resolve_spec {resolved : ResolveStep}
    (hresolve : resolve settings now tenantId path store cache = .ok resolved) :
    (∃ count, count ≤ 2 ∧ resolved.store = store.countingLookups count) ∧
      ∃ results : List Observe.PreferenceResult,
        resolved.counted = results.map .versionPreference := by
  have hunasked : ∃ count, count ≤ 2 ∧ store = store.countingLookups count :=
    ⟨0, by omega, rfl⟩
  cases hkey : key? tenantId path with
  | none =>
      rw [resolve_of_keyless hkey] at hresolve
      obtain rfl := Except.ok.inj hresolve
      refine ⟨hunasked, ?_⟩
      dsimp only
      split
      next => exact ⟨[.noTenant], rfl⟩
      next => exact ⟨[], rfl⟩
  | some key =>
      cases hlive : cache.live? now key with
      | some preference =>
          rw [resolve_of_live settings store hkey hlive] at hresolve
          obtain rfl := Except.ok.inj hresolve
          exact ⟨hunasked, [.hit], rfl⟩
      | none =>
          obtain ⟨count, hcount, hforgotten⟩ :=
            resolve_of_forgotten settings store hkey hlive
          rw [hforgotten] at hresolve
          split at hresolve
          next =>
            obtain rfl := Except.ok.inj hresolve
            exact ⟨⟨count, hcount, rfl⟩, [.miss, .storeError], rfl⟩
          next =>
            obtain ⟨kept, -, rfl⟩ := map_eq_ok_iff.mp hresolve
            exact ⟨⟨count, hcount, rfl⟩, [.miss], rfl⟩

end Resolution

end Version

end EdgeGateway
