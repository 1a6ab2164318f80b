import EdgeGateway.Version.Preference

/-!
# Preferences at work

The look-up of version preferences with its clock, its cache, its store and the
task that sweeps the cache, and what can happen to them.
-/

namespace EdgeGateway.Version

/-- What can happen to a look-up of preferences. -/
inductive Event where
  | resolve (tenantId : Option String) (path : String)
  | insert (preference : Store.Preference)
  | outage (unavailable : Bool)
  | wait (span : Duration)
  | purge
  deriving Repr, DecidableEq

structure PreferenceRun where
  settings : Settings
  store : Store.Memory
  now : Instant := .start
  cache : PreferenceCache := .empty
  sweeper : Option Sweeper := none
  deriving Repr

namespace PreferenceRun

/-- A look-up that starts now, with a task that sweeps its cache. -/
def ofSettings (settings : Settings) (store : Store.Memory)
    (every : Option Duration) : PreferenceRun where
  settings := settings
  store := store
  sweeper := every.bind fun every => Sweeper.start? every .start

def resolve (tenantId : Option String) (path : String) (run : PreferenceRun) :
    Except ClockFault (ResolveStep × PreferenceRun) := do
  let step ← Version.resolve run.settings run.now tenantId path run.store run.cache
  return (step, { run with cache := step.cache, store := step.store })

/-- Lets time pass, and then the task run if it is due. -/
def advance (span : Duration) (run : PreferenceRun) : PreferenceRun :=
  let now := run.now.advance span
  let (sweeper, cache) :=
    Sweeper.run run.sweeper now (Expiring.purge · now) run.cache
  { run with now := now, cache := cache, sweeper := sweeper }

/-- Drops what has expired, and tells how much that was. -/
def purge (run : PreferenceRun) : Nat × PreferenceRun :=
  let cache := run.cache.purge run.now
  (run.cache.size - cache.size, { run with cache := cache })

/-- Adds a preference to the store, behind the back of the cache. -/
def insert (preference : Store.Preference) (run : PreferenceRun) : PreferenceRun :=
  { run with store := run.store.insertPreference preference }

def setUnavailable (unavailable : Bool) (run : PreferenceRun) : PreferenceRun :=
  { run with
    store := { run.store with preferencesUnavailable := unavailable } }

/-- Asks the store alone. -/
def find (tenant resource : String) (run : PreferenceRun) :
    Except Store.Error (Option Store.Preference) × PreferenceRun :=
  let (found, store) := run.store.findPreference tenant resource
  (found, { run with store := store })

/-- What a tenant prefers for a path now. -/
def answer (run : PreferenceRun) (tenantId : Option String) (path : String) :
    Except ClockFault (Option Store.Preference) :=
  (run.resolve tenantId path).map fun (step, _) => step.preference

/-- A resolution that ends in a fault has asked the cache and the store before. -/
def afterFault (tenantId : Option String) (path : String) (run : PreferenceRun) :
    PreferenceRun :=
  let tenant := Text.trim (tenantId.getD "")
  match normalizeResource? path with
  | none => run
  | some resource =>
      { run with
        cache := (run.cache.lookup run.now (.of tenant resource)).2
        store := (findInStore run.settings.namespaces tenant resource run.store).2 }

def step (run : PreferenceRun) : Event → PreferenceRun
  | .resolve tenantId path =>
      match run.resolve tenantId path with
      | .ok (_, next) => next
      | .error _ => run.afterFault tenantId path
  | .insert preference => run.insert preference
  | .outage unavailable => run.setUnavailable unavailable
  | .wait span => run.advance span
  | .purge => run.purge.2

def after (run : PreferenceRun) (events : List Event) : PreferenceRun :=
  events.foldl step run

end PreferenceRun

end EdgeGateway.Version
