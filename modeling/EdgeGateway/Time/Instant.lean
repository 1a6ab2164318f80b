import EdgeGateway.Time.Duration

/-!
# Instants

A point on the clock of the running gateway, in nanoseconds since it started.
The clock counts seconds in 64 bits with a sign, so an instant far enough ahead
does not exist.
-/

namespace EdgeGateway

structure Instant where
  nanos : Nat
  deriving Repr, DecidableEq

namespace Instant

def start : Instant := ⟨0⟩

/-- The last nanosecond that the clock can show. -/
def limit : Nat := Text.limitSigned * 1000000000 + 999999999

def add? (instant : Instant) (duration : Duration) : Option Instant :=
  if instant.nanos + duration.nanos ≤ limit then
    some ⟨instant.nanos + duration.nanos⟩
  else none

def advance (instant : Instant) (duration : Duration) : Instant :=
  ⟨instant.nanos + duration.nanos⟩

/-- The time from an earlier instant to a later one, or zero. -/
def since (later earlier : Instant) : Duration :=
  ⟨later.nanos - earlier.nanos⟩

def before (left right : Instant) : Bool := left.nanos < right.nanos

end Instant

/-- A deadline that lies beyond what the clock can show. -/
inductive ClockFault where
  | deadlineOutOfRange
  deriving Repr, DecidableEq

/-- The deadline of something that lasts from now on. -/
def deadline (now : Instant) (duration : Duration) : Except ClockFault Instant :=
  match now.add? duration with
  | some instant => .ok instant
  | none => .error .deadlineOutOfRange

/-- A task that runs again and again, each time the same span after its last
run.  Periods that were missed are not made up for. -/
structure Sweeper where
  every : Duration
  next : Instant
  deriving Repr, DecidableEq

namespace Sweeper

/-- A task that has run just now. -/
def ranAt (every : Duration) (now : Instant) : Sweeper :=
  ⟨every, now.advance every⟩

def isDue (sweeper : Sweeper) (now : Instant) : Bool :=
  sweeper.next.nanos ≤ now.nanos

/-- A task that runs for the first time now; without a period there is none. -/
def start? (every : Duration) (now : Instant) : Option Sweeper :=
  if every.isZero then none else some (ranAt every now)

/-- Lets the task sweep a value if it is due. -/
def run (sweeper : Option Sweeper) (now : Instant) (sweep : α → α) (value : α) :
    Option Sweeper × α :=
  match sweeper with
  | some task =>
      if task.isDue now then (some (ranAt task.every now), sweep value)
      else (some task, value)
  | none => (none, value)

end Sweeper

end EdgeGateway
