import EdgeGateway.Time.Instant

/-!
# Values that expire

Values that are kept under keys, each until its deadline.  A value is never used
at or after its deadline; whether it is still there then shows only in the size.
-/

namespace EdgeGateway

structure Dated (Value : Type) where
  value : Value
  expiresAt : Instant
  deriving Repr, DecidableEq

/-- At most one value for each key. -/
structure Expiring (Key Value : Type) where
  entries : List (Key × Dated Value)
  distinct : (entries.map Prod.fst).Nodup
  deriving Repr, DecidableEq

namespace Expiring

variable {Key Value : Type}

def empty : Expiring Key Value := ⟨[], List.nodup_nil⟩

def size (cache : Expiring Key Value) : Nat := cache.entries.length

/-- Keeps only some of the values. -/
def keep (cache : Expiring Key Value) (kept : Key × Dated Value → Bool) :
    Expiring Key Value where
  entries := cache.entries.filter kept
  distinct := (List.filter_sublist.map Prod.fst).nodup cache.distinct

/-- Drops everything that has expired. -/
def purge (cache : Expiring Key Value) (now : Instant) : Expiring Key Value :=
  cache.keep fun (_, dated) => now.before dated.expiresAt

variable [DecidableEq Key]

def dated? (cache : Expiring Key Value) (key : Key) : Option (Dated Value) :=
  (cache.entries.find? fun (known, _) => known = key).map Prod.snd

def erase (cache : Expiring Key Value) (key : Key) : Expiring Key Value :=
  cache.keep fun (known, _) => known ≠ key

/-- A value that still lives; one that has expired is dropped. -/
def lookup (cache : Expiring Key Value) (now : Instant) (key : Key) :
    Option Value × Expiring Key Value :=
  match cache.dated? key with
  | some dated =>
      if now.before dated.expiresAt then (some dated.value, cache)
      else (none, cache.erase key)
  | none => (none, cache)

/-- Puts a value in the place of the one with its key. -/
def put (cache : Expiring Key Value) (key : Key) (dated : Dated Value) :
    Expiring Key Value where
  entries := (key, dated) :: (cache.erase key).entries
  distinct := by
    have habsent : key ∉ (cache.erase key).entries.map Prod.fst := by
      simp [erase, keep]
    exact List.nodup_cons.mpr ⟨habsent, (cache.erase key).distinct⟩

/-- Keeps a value from now on for a span of time. -/
def store (cache : Expiring Key Value) (now : Instant) (ttl : Duration)
    (key : Key) (value : Value) : Except ClockFault (Expiring Key Value) := do
  let expiresAt ← deadline now ttl
  return cache.put key ⟨value, expiresAt⟩

end Expiring

end EdgeGateway
