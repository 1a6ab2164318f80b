import EdgeGateway.Proofs.Chronicle
import EdgeGateway.Proofs.Time.Expiring
import EdgeGateway.Proofs.Version.Lookup
import Mathlib.Data.List.Induction

/-!
# Preferences that are recalled

A tenant is given for a path what the store said at the last miss of its key, if
that is less than a lifetime ago, and else what the store says now.  So a key is
affected by its own misses and by the rows of the keys that it tries, and by
nothing else: rows and look-ups of other keys, purges and sweeps do not show.
-/

namespace EdgeGateway.Version

open Observe (Counter)
open Store (Memory Preference PreferenceKey)

/-- A lifetime of zero stands for ten minutes. -/
theorem Settings.ttl_of (ttl : Duration) (namespaces : List String) :
    (Settings.of ttl namespaces).ttl =
      if ttl.nanos = 0 then Duration.ofMinutes 10 else ttl := by
  simp [Settings.of, Config.effectiveTtl, Duration.isZero, Config.defaultPreferenceTtl]

namespace PreferenceRun

/-! ## One resolution -/

def counted (run : PreferenceRun) (tenantId : Option String) (path : String) :
    List Counter :=
  match run.resolve tenantId path with
  | .ok (step, _) => step.counted
  | .error _ => []

/-- After the cache and the store have been asked for a key. -/
def lookedUp (run : PreferenceRun) (key : PreferenceKey) (count : Nat) :
    PreferenceRun :=
  { run with
    cache := (run.cache.lookup run.now key).2
    store := run.store.countingLookups count }

/-- There is no key, or its preference is in the cache, or the store fails, or what
the store says can be kept or cannot. -/
inductive Resolved (run : PreferenceRun) (tenantId : Option String)
    (path : String) : Prop where
  | keyless (hkey : key? tenantId path = none)
      (hanswer : run.answer tenantId path = .ok none)
      (hstep : run.step (.resolve tenantId path) = run)
  | hit (key : PreferenceKey) (preference : Option Preference)
      (hkey : key? tenantId path = some key)
      (hlive : run.cache.live? run.now key = some preference)
      (hanswer : run.answer tenantId path = .ok preference)
      (hcounted : run.counted tenantId path = [.versionPreference .hit])
      (hstep : run.step (.resolve tenantId path) = run.lookedUp key 0)
  | failed (key : PreferenceKey) (error : Store.Error) (count : Nat)
      (hcount : count ≤ 2) (hkey : key? tenantId path = some key)
      (hlive : run.cache.live? run.now key = none)
      (hplain : plainLookup run.settings.namespaces run.store key = .error error)
      (hanswer : run.answer tenantId path = .ok none)
      (hstep : run.step (.resolve tenantId path) = run.lookedUp key count)
  | kept (key : PreferenceKey) (preference : Option Preference) (count : Nat)
      (hcount : count ≤ 2) (hkey : key? tenantId path = some key)
      (hlive : run.cache.live? run.now key = none)
      (hplain : plainLookup run.settings.namespaces run.store key = .ok preference)
      (hlimit : run.now.nanos + run.settings.ttl.nanos ≤ Instant.limit)
      (hanswer : run.answer tenantId path = .ok preference)
      (hcounted : run.counted tenantId path = [.versionPreference .miss])
      (hstep : run.step (.resolve tenantId path) =
        { run with
          cache := (run.cache.lookup run.now key).2.put key
            ⟨preference, run.now.advance run.settings.ttl⟩
          store := run.store.countingLookups count })
  | lost (key : PreferenceKey) (preference : Option Preference) (count : Nat)
      (hcount : count ≤ 2) (hkey : key? tenantId path = some key)
      (hlive : run.cache.live? run.now key = none)
      (hplain : plainLookup run.settings.namespaces run.store key = .ok preference)
      (hlimit : Instant.limit < run.now.nanos + run.settings.ttl.nanos)
      (hanswer : run.answer tenantId path = .error .deadlineOutOfRange)
      (hcounted : run.counted tenantId path = [])
      (hstep : run.step (.resolve tenantId path) = run.lookedUp key count)

section Outcome

variable (run : PreferenceRun) {tenantId : Option String} {path : String}
variable {resolved : ResolveStep} {fault : ClockFault}

/-- A resolution is a step of the run that holds its parts. -/
theorem of_resolve
    (hresolve : Version.resolve run.settings run.now tenantId path run.store
      run.cache = .ok resolved) :
    run.answer tenantId path = .ok resolved.preference ∧
      run.step (.resolve tenantId path) =
        { run with cache := resolved.cache, store := resolved.store } := by
  have hrun : run.resolve tenantId path = .ok (resolved,
      { run with cache := resolved.cache, store := resolved.store }) := by
    rw [resolve, hresolve]
    rfl
  exact ⟨by rw [answer, hrun]; rfl, by rw [step, hrun]⟩

theorem counted_of_resolve
    (hresolve : Version.resolve run.settings run.now tenantId path run.store
      run.cache = .ok resolved) :
    run.counted tenantId path = resolved.counted := by
  rw [counted, resolve, hresolve]
  rfl

theorem of_resolve_error
    (hresolve : Version.resolve run.settings run.now tenantId path run.store
      run.cache = .error fault) :
    run.answer tenantId path = .error fault ∧ run.counted tenantId path = [] ∧
      run.step (.resolve tenantId path) = run.afterFault tenantId path := by
  have hrun : run.resolve tenantId path = .error fault := by
    rw [resolve, hresolve]
    rfl
  exact ⟨by rw [answer, hrun]; rfl, by rw [counted, hrun], by rw [step, hrun]⟩

theorem afterFault_of_key {key : PreferenceKey}
    (hkey : key? tenantId path = some key) :
    ∃ count, count ≤ 2 ∧
      run.afterFault tenantId path = run.lookedUp key count := by
  obtain ⟨-, resource, hresource, rfl⟩ := exists_of_key? hkey
  obtain ⟨count, hcount, hfind⟩ := findInStore_eq run.settings.namespaces
    (Text.trim (tenantId.getD "")) resource run.store
  exact ⟨count, hcount, by simp only [afterFault, hresource, hfind, lookedUp]⟩

end Outcome

theorem resolved (run : PreferenceRun) (tenantId : Option String) (path : String) :
    Resolved run tenantId path := by
  cases hkey : key? tenantId path with
  | none =>
      obtain ⟨hanswer, hstep⟩ := run.of_resolve (resolve_of_keyless hkey)
      exact .keyless hkey hanswer hstep
  | some key =>
      cases hlive : run.cache.live? run.now key with
      | some preference =>
          have hresolve := resolve_of_live run.settings run.store hkey hlive
          obtain ⟨hanswer, hstep⟩ := run.of_resolve hresolve
          exact .hit key preference hkey hlive hanswer
            (run.counted_of_resolve hresolve) hstep
      | none =>
          obtain ⟨count, hcount, hresolve⟩ :=
            resolve_of_forgotten run.settings run.store hkey hlive
          cases hplain : plainLookup run.settings.namespaces run.store key with
          | error error =>
              rw [hplain] at hresolve
              obtain ⟨hanswer, hstep⟩ := run.of_resolve hresolve
              exact .failed key error count hcount hkey hlive hplain hanswer hstep
          | ok preference =>
              rw [hplain] at hresolve
              dsimp only at hresolve
              rcases Nat.lt_or_ge Instant.limit
                  (run.now.nanos + run.settings.ttl.nanos) with hlimit | hlimit
              · rw [(Expiring.store_eq_error_iff _ run.now run.settings.ttl key
                  preference .deadlineOutOfRange).mpr hlimit] at hresolve
                obtain ⟨hanswer, hcounted, hstep⟩ := run.of_resolve_error hresolve
                obtain ⟨asked, hasked, hafter⟩ := run.afterFault_of_key hkey
                exact .lost key preference asked hasked hkey hlive hplain hlimit
                  hanswer hcounted (hstep.trans hafter)
              · rw [(Expiring.store_eq_ok_iff _ _ run.now run.settings.ttl key
                  preference).mpr ⟨hlimit, rfl⟩] at hresolve
                obtain ⟨hanswer, hstep⟩ := run.of_resolve hresolve
                exact .kept key preference count hcount hkey hlive hplain hlimit
                  hanswer (run.counted_of_resolve hresolve) hstep

end PreferenceRun

/-! ## The misses of a run -/

/-- A key that was asked for, what the store alone would say, and what was
counted. -/
structure Asked where
  time : Instant
  key : PreferenceKey
  plain : Except Store.Error (Option Preference)
  counted : List Counter

/-- What the store said at a miss, unless it failed. -/
def Asked.miss? (asked : Asked) :
    Option (Stored PreferenceKey (Option Preference)) :=
  match asked.plain with
  | .ok preference =>
      if asked.counted.contains (.versionPreference .miss) then
        some ⟨asked.key, asked.time, preference⟩
      else none
  | .error _ => none

namespace PreferenceRun

/-- What an event adds to the past. -/
def told (run : PreferenceRun) : Event → List Asked
  | .resolve tenantId path =>
      match key? tenantId path with
      | some key =>
          [⟨run.now, key, plainLookup run.settings.namespaces run.store key,
            run.counted tenantId path⟩]
      | none => []
  | _ => []

def asked (run : PreferenceRun) (events : List Event) : List Asked :=
  chronicle step told run events

/-- The misses of an event. -/
def missed (run : PreferenceRun) (event : Event) :
    List (Stored PreferenceKey (Option Preference)) :=
  (run.told event).filterMap Asked.miss?

def misses (run : PreferenceRun) (events : List Event) :
    List (Stored PreferenceKey (Option Preference)) :=
  (run.asked events).filterMap Asked.miss?

theorem missed_of_keyless {run : PreferenceRun} {tenantId : Option String}
    {path : String} (hkey : key? tenantId path = none) :
    run.missed (.resolve tenantId path) = [] := by
  rw [missed, told, hkey]
  rfl

theorem missed_of_key {run : PreferenceRun} {tenantId : Option String}
    {path : String} {key : PreferenceKey} (hkey : key? tenantId path = some key) :
    run.missed (.resolve tenantId path) =
      match plainLookup run.settings.namespaces run.store key with
      | .ok preference =>
          if (run.counted tenantId path).contains (.versionPreference .miss) then
            [⟨key, run.now, preference⟩]
          else []
      | .error _ => [] := by
  rw [missed, told, hkey]
  cases hplain : plainLookup run.settings.namespaces run.store key with
  | error error => simp [Asked.miss?, hplain]
  | ok preference =>
      by_cases hmiss :
          Counter.versionPreference .miss ∈ run.counted tenantId path <;>
        simp [Asked.miss?, hplain, hmiss]

theorem after_concat (run : PreferenceRun) (events : List Event) (event : Event) :
    run.after (events ++ [event]) = (run.after events).step event := by
  simp [after]

theorem misses_concat (run : PreferenceRun) (events : List Event) (event : Event) :
    run.misses (events ++ [event]) =
      run.misses events ++ (run.after events).missed event := by
  have hasked : run.asked (events ++ [event]) =
      run.asked events ++ (run.after events).told event :=
    chronicle_concat step told run events event
  rw [misses, hasked, List.filterMap_append]
  rfl

theorem step_settings (run : PreferenceRun) (event : Event) :
    (run.step event).settings = run.settings := by
  cases event with
  | resolve tenantId path =>
      cases run.resolved tenantId path <;> simp_all [lookedUp]
  | _ => rfl

theorem after_settings (run : PreferenceRun) (events : List Event) :
    (run.after events).settings = run.settings :=
  foldl_unchanged step_settings run events

/-- The cache of a run gives what the misses of the past give. -/
def Reflects (run : PreferenceRun)
    (log : List (Stored PreferenceKey (Option Preference))) : Prop :=
  run.cache.Recalls log run.settings.ttl run.now

theorem reflects_step {run : PreferenceRun}
    {log : List (Stored PreferenceKey (Option Preference))}
    (hreflects : run.Reflects log) (event : Event) :
    (run.step event).Reflects (log ++ run.missed event) := by
  have hsilent : run.missed event = [] → (run.step event).Reflects log →
      (run.step event).Reflects (log ++ run.missed event) := by
    intro hnone hlog
    rwa [hnone, List.append_nil]
  cases event with
  | resolve tenantId path =>
      have hlookup : ∀ key count, (run.lookedUp key count).Reflects log :=
        fun key _ => Expiring.Recalls.lookup hreflects key
      cases run.resolved tenantId path with
      | keyless hkey hanswer hstep =>
          exact hsilent (missed_of_keyless hkey) (by rwa [hstep])
      | hit key preference hkey hlive hanswer hcounted hstep =>
          refine hsilent ?_ (by rw [hstep]; exact hlookup key 0)
          rw [missed_of_key hkey, hcounted]
          split <;> rfl
      | failed key error count hcount hkey hlive hplain hanswer hstep =>
          refine hsilent ?_ (by rw [hstep]; exact hlookup key count)
          rw [missed_of_key hkey, hplain]
      | kept key preference count hcount hkey hlive hplain hlimit hanswer hcounted
          hstep =>
          rw [missed_of_key hkey, hplain, hcounted, hstep]
          exact (hlookup key count).store
            ((Expiring.store_eq_ok_iff _ _ _ _ _ _).mpr ⟨hlimit, rfl⟩)
      | lost key preference count hcount hkey hlive hplain hlimit hanswer hcounted
          hstep =>
          refine hsilent ?_ (by rw [hstep]; exact hlookup key count)
          rw [missed_of_key hkey, hplain, hcounted]
          rfl
  | wait span =>
      exact hsilent rfl ((hreflects.later (Nat.le_add_right _ _)).sweep run.sweeper)
  | purge => exact hsilent rfl (Expiring.Recalls.purge hreflects)
  | insert preference => exact hsilent rfl hreflects
  | outage unavailable => exact hsilent rfl hreflects

theorem reflects_after (settings : Settings) (store : Memory)
    (every : Option Duration) (events : List Event) :
    ((ofSettings settings store every).after events).Reflects
      ((ofSettings settings store every).misses events) := by
  induction events using List.reverseRecOn with
  | nil => exact Expiring.recalls_empty
  | append_singleton events event ih =>
      rw [after_concat, misses_concat]
      exact reflects_step ih event

/-! ## What does not show -/

/-- An event that touches no key that is tried for this one. -/
def isElsewhere (namespaces : List String) (key : PreferenceKey) : Event → Bool
  | .resolve tenantId path => key? tenantId path ≠ some key
  | .insert preference =>
      (PreferenceKey.of preference.tenantId preference.resourceKey) ∉
        triedKeys namespaces key
  | .purge => true
  | .outage _ => false
  | .wait _ => false

/-- What an answer for a key depends on. -/
structure Alike (key : PreferenceKey) (left right : PreferenceRun) : Prop where
  settings : left.settings = right.settings
  now : left.now = right.now
  unavailable : left.store.preferencesUnavailable = right.store.preferencesUnavailable
  rows : ∀ tried ∈ triedKeys left.settings.namespaces key,
    left.store.row? tried = right.store.row? tried
  live : ∀ later : Instant, left.now.nanos ≤ later.nanos →
    left.cache.live? later key = right.cache.live? later key

/-- What a resolution answers, by what it finds in the cache and in the store. -/
def reply (ttl : Duration) (now : Instant) (found : Option (Option Preference))
    (plain : Except Store.Error (Option Preference)) :
    Except ClockFault (Option Preference) :=
  match found, plain with
  | some preference, _ => .ok preference
  | none, .error _ => .ok none
  | none, .ok preference =>
      if now.nanos + ttl.nanos ≤ Instant.limit then .ok preference
      else .error .deadlineOutOfRange

/-- What a resolution of a key leaves of it in the cache. -/
def remains (ttl : Duration) (now later : Instant)
    (found : Option (Option Preference))
    (plain : Except Store.Error (Option Preference))
    (before : Option (Option Preference)) : Option (Option Preference) :=
  match found, plain with
  | none, .ok preference =>
      if now.nanos + ttl.nanos ≤ Instant.limit then
        if later.nanos < now.nanos + ttl.nanos then some preference else none
      else before
  | _, _ => before

theorem answer_eq {run : PreferenceRun} {tenantId : Option String} {path : String}
    {key : PreferenceKey} (hkey : key? tenantId path = some key) :
    run.answer tenantId path =
      reply run.settings.ttl run.now (run.cache.live? run.now key)
        (plainLookup run.settings.namespaces run.store key) := by
  cases run.resolved tenantId path with
  | keyless hnone hanswer hstep => simp [hkey] at hnone
  | hit found preference hfound hlive hanswer hcounted hstep =>
      obtain rfl : key = found := Option.some.inj (hkey.symm.trans hfound)
      rw [hanswer, hlive, reply]
  | failed found error count hcount hfound hlive hplain hanswer hstep =>
      obtain rfl : key = found := Option.some.inj (hkey.symm.trans hfound)
      rw [hanswer, hlive, hplain, reply]
  | kept found preference count hcount hfound hlive hplain hlimit hanswer hcounted
      hstep =>
      obtain rfl : key = found := Option.some.inj (hkey.symm.trans hfound)
      rw [hanswer, hlive, hplain, reply, if_pos hlimit]
  | lost found preference count hcount hfound hlive hplain hlimit hanswer hcounted
      hstep =>
      obtain rfl : key = found := Option.some.inj (hkey.symm.trans hfound)
      rw [hanswer, hlive, hplain, reply, if_neg (Nat.not_le.mpr hlimit)]

section Resolve

variable {run : PreferenceRun} {tenantId : Option String} {path : String}
variable {key : PreferenceKey}

theorem resolve_of_keyless (hkey : key? tenantId path = none) :
    run.answer tenantId path = .ok none ∧
      run.step (.resolve tenantId path) = run := by
  cases run.resolved tenantId path with
  | keyless hnone hanswer hstep => exact ⟨hanswer, hstep⟩
  | _ => simp_all

theorem store_resolve_of_live (hkey : key? tenantId path = some key)
    {preference : Option Preference}
    (hlive : run.cache.live? run.now key = some preference) :
    (run.step (.resolve tenantId path)).store = run.store := by
  cases run.resolved tenantId path with
  | hit found preference hfound hfresh hanswer hcounted hstep =>
      rw [hstep]
      rfl
  | _ => simp_all

theorem dated?_resolve_of_failed (hkey : key? tenantId path = some key)
    {error : Store.Error}
    (hlive : run.cache.live? run.now key = none)
    (hplain : plainLookup run.settings.namespaces run.store key = .error error) :
    (run.step (.resolve tenantId path)).cache.dated? key = none := by
  cases run.resolved tenantId path with
  | failed found error count hcount hfound hdead hfailed hanswer hstep =>
      obtain rfl : key = found := Option.some.inj (hkey.symm.trans hfound)
      rw [hstep]
      exact run.cache.dated?_lookup_of_dead hlive
  | _ => simp_all

end Resolve

theorem live?_resolve {run : PreferenceRun} {tenantId : Option String}
    {path : String} (key : PreferenceKey) {later : Instant}
    (hlater : run.now.nanos ≤ later.nanos) :
    (run.step (.resolve tenantId path)).cache.live? later key =
      if key? tenantId path = some key then
        remains run.settings.ttl run.now later (run.cache.live? run.now key)
          (plainLookup run.settings.namespaces run.store key)
          (run.cache.live? later key)
      else run.cache.live? later key := by
  have hlookup : ∀ found count,
      (run.lookedUp found count).cache.live? later key = run.cache.live? later key :=
    fun found _ => run.cache.live?_lookup hlater found key
  cases run.resolved tenantId path with
  | keyless hkey hanswer hstep => rw [hstep, hkey, if_neg (by simp)]
  | hit found preference hkey hlive hanswer hcounted hstep =>
      rw [hstep, hlookup, hkey]
      split
      next hsame =>
        obtain rfl := Option.some.inj hsame
        rw [hlive, remains]
        simp
      next => rfl
  | failed found error count hcount hkey hlive hplain hanswer hstep =>
      rw [hstep, hlookup, hkey]
      split
      next hsame =>
        obtain rfl := Option.some.inj hsame
        rw [hlive, hplain, remains]
        simp
      next => rfl
  | lost found preference count hcount hkey hlive hplain hlimit hanswer hcounted
      hstep =>
      rw [hstep, hlookup, hkey]
      split
      next hsame =>
        obtain rfl := Option.some.inj hsame
        rw [hlive, hplain, remains, if_neg (Nat.not_le.mpr hlimit)]
      next => rfl
  | kept found preference count hcount hkey hlive hplain hlimit hanswer hcounted
      hstep =>
      rw [hstep, hkey, Expiring.live?_put]
      by_cases hsame : key = found
      · subst hsame
        rw [if_pos rfl, if_pos rfl, hlive, hplain, remains, if_pos hlimit]
        rfl
      · rw [if_neg hsame, if_neg fun h => hsame (Option.some.inj h).symm]
        exact hlookup found count

theorem step_now (run : PreferenceRun) (event : Event) :
    (run.step event).now =
      match event with
      | .wait span => run.now.advance span
      | _ => run.now := by
  cases event with
  | resolve tenantId path =>
      cases run.resolved tenantId path <;> simp_all [lookedUp]
  | _ => rfl

/-- Resolutions only count in the store. -/
theorem store_resolve (run : PreferenceRun) (tenantId : Option String)
    (path : String) :
    ∃ count, count ≤ 2 ∧
      (run.step (.resolve tenantId path)).store = run.store.countingLookups count := by
  cases run.resolved tenantId path with
  | keyless hkey hanswer hstep => exact ⟨0, by omega, by rw [hstep]; rfl⟩
  | hit key preference hkey hlive hanswer hcounted hstep =>
      exact ⟨0, by omega, by rw [hstep]; rfl⟩
  | failed key error count hcount hkey hlive hplain hanswer hstep =>
      exact ⟨count, hcount, by rw [hstep]; rfl⟩
  | kept key preference count hcount hkey hlive hplain hlimit hanswer hcounted
      hstep => exact ⟨count, hcount, by rw [hstep]⟩
  | lost key preference count hcount hkey hlive hplain hlimit hanswer hcounted
      hstep => exact ⟨count, hcount, by rw [hstep]; rfl⟩

section Alike

variable {key : PreferenceKey} {left right : PreferenceRun}

theorem Alike.plain_eq (halike : Alike key left right) :
    plainLookup left.settings.namespaces left.store key =
      plainLookup right.settings.namespaces right.store key := by
  rw [plainLookup_congr halike.unavailable halike.rows, halike.settings]

theorem Alike.answer_eq (halike : Alike key left right) {tenantId : Option String}
    {path : String} (hkey : key? tenantId path = some key) :
    left.answer tenantId path = right.answer tenantId path := by
  rw [PreferenceRun.answer_eq hkey, PreferenceRun.answer_eq hkey, halike.plain_eq,
    halike.live left.now (Nat.le_refl _), halike.settings, halike.now]

theorem Alike.resolve (halike : Alike key left right) (tenantId : Option String)
    (path : String) :
    Alike key (left.step (.resolve tenantId path))
      (right.step (.resolve tenantId path)) := by
  obtain ⟨count, -, hleft⟩ := left.store_resolve tenantId path
  obtain ⟨count', -, hright⟩ := right.store_resolve tenantId path
  refine ⟨?_, ?_, ?_, ?_, ?_⟩
  · rw [step_settings, step_settings, halike.settings]
  · rw [step_now, step_now, halike.now]
  · rw [hleft, hright]
    exact halike.unavailable
  · rw [step_settings, hleft, hright]
    exact halike.rows
  · intro later hlater
    rw [step_now] at hlater
    rw [live?_resolve key hlater, live?_resolve key (halike.now ▸ hlater),
      halike.plain_eq, halike.live later hlater,
      halike.live left.now (Nat.le_refl _), halike.settings, halike.now]

/-- The same event on both sides. -/
theorem Alike.step (halike : Alike key left right) (event : Event) :
    Alike key (left.step event) (right.step event) := by
  have hsettings := halike.settings
  have hnow := halike.now
  cases event with
  | resolve tenantId path => exact halike.resolve tenantId path
  | insert preference =>
      refine ⟨hsettings, hnow, halike.unavailable, ?_, halike.live⟩
      intro tried htried
      change (left.store.insertPreference preference).row? tried =
        (right.store.insertPreference preference).row? tried
      rw [Memory.row?_insertPreference, Memory.row?_insertPreference,
        halike.rows tried htried]
  | outage unavailable => exact ⟨hsettings, hnow, rfl, halike.rows, halike.live⟩
  | wait span =>
      refine ⟨hsettings, by rw [step_now, step_now, hnow], halike.unavailable,
        halike.rows, ?_⟩
      intro later hlater
      have hpast : left.now.nanos ≤ later.nanos :=
        Nat.le_trans (Nat.le_add_right _ _) hlater
      have hlater' : (right.now.advance span).nanos ≤ later.nanos := hnow ▸ hlater
      exact (left.cache.live?_sweep left.sweeper hlater key).trans
        ((halike.live later hpast).trans
          (right.cache.live?_sweep right.sweeper hlater' key).symm)
  | purge =>
      refine ⟨hsettings, hnow, halike.unavailable, halike.rows, ?_⟩
      intro later hlater
      have hlater' : right.now.nanos ≤ later.nanos := hnow ▸ hlater
      exact (left.cache.live?_purge hlater key).trans
        ((halike.live later hlater).trans (right.cache.live?_purge hlater' key).symm)

/-- An event elsewhere on one side. -/
theorem Alike.elsewhere (halike : Alike key left right) {event : Event}
    (helsewhere : isElsewhere left.settings.namespaces key event = true) :
    Alike key left (right.step event) := by
  have hsettings := halike.settings
  have hnow := halike.now
  cases event with
  | resolve tenantId path =>
      have hkey : key? tenantId path ≠ some key := of_decide_eq_true helsewhere
      obtain ⟨count, -, hright⟩ := right.store_resolve tenantId path
      refine ⟨by rw [step_settings, hsettings], by rw [step_now, hnow], ?_, ?_, ?_⟩
      · rw [hright]
        exact halike.unavailable
      · rw [hright]
        exact halike.rows
      · intro later hlater
        rw [live?_resolve key (hnow ▸ hlater), if_neg hkey]
        exact halike.live later hlater
  | insert preference =>
      have huntried := of_decide_eq_true helsewhere
      refine ⟨hsettings, hnow, halike.unavailable, ?_, halike.live⟩
      intro tried htried
      change left.store.row? tried =
        (right.store.insertPreference preference).row? tried
      rw [Memory.row?_insertPreference, if_neg, halike.rows tried htried]
      rintro rfl
      exact huntried htried
  | purge =>
      refine ⟨hsettings, hnow, halike.unavailable, halike.rows, ?_⟩
      intro later hlater
      have hlater' : right.now.nanos ≤ later.nanos := hnow ▸ hlater
      exact (halike.live later hlater).trans (right.cache.live?_purge hlater' key).symm
  | outage unavailable => simp [isElsewhere] at helsewhere
  | wait span => simp [isElsewhere] at helsewhere

/-- Without the sweeps and what happens elsewhere a run is the same for a key. -/
theorem alike_without_elsewhere (settings : Settings) (store : Memory)
    (every : Option Duration) (events : List Event) (key : PreferenceKey) :
    Alike key
      ((ofSettings settings store none).after
        (events.filter fun event => !isElsewhere settings.namespaces key event))
      ((ofSettings settings store every).after events) := by
  induction events using List.reverseRecOn with
  | nil => exact ⟨rfl, rfl, rfl, fun _ _ => rfl, fun _ _ => rfl⟩
  | append_singleton events event ih =>
      rw [List.filter_append, after_concat]
      cases helsewhere : isElsewhere settings.namespaces key event with
      | true =>
          rw [List.filter_cons_of_neg (by simp [helsewhere]), List.filter_nil,
            List.append_nil]
          refine ih.elsewhere ?_
          rwa [after_settings]
      | false =>
          rw [List.filter_cons_of_pos (by simp [helsewhere]), List.filter_nil,
            after_concat]
          exact ih.step event

end Alike

end PreferenceRun

open PreferenceRun (isElsewhere)

/-- A tenant without a name and a path without a resource have no preference, and
neither the cache nor the store is asked.  Any other key gets what the store said
at the last miss of the key, if that is less than a lifetime ago, and the store is
not asked.  Else it is asked at most twice.  If it fails there is no preference
and nothing is left under the key, and otherwise its answer is given, provided
that the clock can show the end of its lifetime.  Purges, sweeps, resolutions of
other keys and rows of keys that are not tried change no answer.  A lifetime of zero
stands for ten minutes. -/
theorem answer_recalls_last_miss (ttl : Duration) (namespaces : List String)
    (store : Memory) (every : Option Duration) (events : List Event)
    (tenantId : Option String) (path : String) :
    let lifetime := if ttl.nanos = 0 then Duration.ofMinutes 10 else ttl
    let settings := Settings.of ttl namespaces
    let start := PreferenceRun.ofSettings settings store every
    let run := start.after events
    let next := run.step (.resolve tenantId path)
    let recalled := Stored.current? (start.misses events) lifetime run.now
    (key? tenantId path = none →
      run.answer tenantId path = .ok none ∧ next = run) ∧
    ∀ key, key? tenantId path = some key →
      (∀ preference, recalled key = some preference →
        run.answer tenantId path = .ok preference ∧ next.store = run.store) ∧
      (recalled key = none →
        (∃ count, count ≤ 2 ∧ next.store = run.store.countingLookups count) ∧
        (∀ error, plainLookup settings.namespaces run.store key = .error error →
          run.answer tenantId path = .ok none ∧ next.cache.dated? key = none) ∧
        (∀ preference,
          plainLookup settings.namespaces run.store key = .ok preference →
            run.now.nanos + lifetime.nanos ≤ Instant.limit →
              run.answer tenantId path = .ok preference)) ∧
      run.answer tenantId path =
        ((PreferenceRun.ofSettings settings store none).after
          (events.filter fun event =>
            !isElsewhere settings.namespaces key event)).answer tenantId path := by
  intro lifetime settings start run next recalled
  have hlifetime : settings.ttl = lifetime := Settings.ttl_of ttl namespaces
  have hsettings : run.settings = settings := start.after_settings events
  have hreflects : run.cache.Recalls (start.misses events) lifetime run.now := by
    rw [← hlifetime, ← hsettings]
    exact PreferenceRun.reflects_after settings store every events
  refine ⟨PreferenceRun.resolve_of_keyless, ?_⟩
  intro key hkey
  have hanswer := @PreferenceRun.answer_eq run _ _ _ hkey
  have hlookup : run.cache.live? run.now key = recalled key :=
    hreflects run.now (Nat.le_refl _) key
  rw [hlookup, hsettings, hlifetime] at hanswer
  refine ⟨?_, ?_, ?_⟩
  · intro preference hrecalled
    rw [hrecalled] at hanswer hlookup
    exact ⟨hanswer, PreferenceRun.store_resolve_of_live hkey hlookup⟩
  · intro hforgotten
    rw [hforgotten] at hanswer hlookup
    refine ⟨run.store_resolve tenantId path, ?_, ?_⟩
    · intro error hplain
      rw [hplain] at hanswer
      rw [← hsettings] at hplain
      exact ⟨hanswer, PreferenceRun.dated?_resolve_of_failed hkey hlookup hplain⟩
    · intro preference hplain hlimit
      rw [hplain, PreferenceRun.reply, if_pos hlimit] at hanswer
      exact hanswer
  · exact ((PreferenceRun.alike_without_elsewhere settings store every events
      key).answer_eq hkey).symm

/-- The preference of a tenant for orders. -/
def ordersPreference : Preference :=
  { tenantId := "T1", resourceKey := "/orders", preferredVersion := "v2" }

/-- A resolution without a row, a row that is inserted behind it, and some time. -/
def lateRow (minutes : Nat) : List Event :=
  [.resolve (some "T1") "/orders", .insert ordersPreference, .wait (.ofMinutes minutes)]

/-- With a lifetime of zero the row is not seen for nine minutes, and is after eleven. -/
theorem lateRow_seen_after_ten_minutes :
    let start := PreferenceRun.ofSettings (.of ⟨0⟩ ["api"]) {} none
    (start.after (lateRow 9)).answer (some "T1") "/orders" = .ok none ∧
      (start.after (lateRow 11)).answer (some "T1") "/orders" =
        .ok (some ordersPreference) := by
  have hkey : key? (some "T1") "/orders" = some ⟨"t1", "/orders"⟩ := by decide
  obtain ⟨hrecalled, -⟩ := (answer_recalls_last_miss ⟨0⟩ ["api"] {} none (lateRow 9)
    (some "T1") "/orders").2 _ hkey
  obtain ⟨-, hforgotten, -⟩ := (answer_recalls_last_miss ⟨0⟩ ["api"] {} none (lateRow 11)
    (some "T1") "/orders").2 _ hkey
  obtain ⟨-, -, hplain⟩ := hforgotten (by decide)
  exact ⟨(hrecalled none (by decide)).1, hplain _ (by decide) (by decide)⟩

/-- A row of another resource is seen where it is the fallback, and with a lifetime of
zero an answer is recalled all the same. -/
theorem insert_of_fallback_changes_answer :
    let run := PreferenceRun.ofSettings (.of (.ofMinutes 10) ["api"]) {} none
    let brief := PreferenceRun.ofSettings (.of ⟨0⟩ ["api"]) {} none
    key? (some "T1") "/api/orders" = some ⟨"t1", "/api/orders"⟩ ∧
      PreferenceKey.of ordersPreference.tenantId ordersPreference.resourceKey =
        ⟨"t1", "/orders"⟩ ∧
      run.answer (some "T1") "/api/orders" = .ok none ∧
      (run.step (.insert ordersPreference)).answer (some "T1") "/api/orders" =
        .ok (some ordersPreference) ∧
      (brief.after (lateRow 1)).answer (some "T1") "/orders" = .ok none ∧
      plainLookup (Settings.of ⟨0⟩ ["api"]).namespaces (brief.after (lateRow 1)).store
        ⟨"t1", "/orders"⟩ = .ok (some ordersPreference) := by
  decide

end EdgeGateway.Version
