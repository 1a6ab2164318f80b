import EdgeGateway.Text.Blank
import EdgeGateway.Text.Numeral
import EdgeGateway.Text.Pieces

/-!
# Spans of time

A duration is a number of nanoseconds whose whole seconds fit 64 bits.  Its
written form is a list of counts with units, `1h 30m` for instance.  A month is
30.44 days and a year 365.25 days.  A count may have a fraction, and spaces may
stand anywhere but inside a unit: the digits of a count go on after a space.
-/

namespace EdgeGateway

structure Duration where
  nanos : Nat
  deriving Repr, DecidableEq

namespace Duration

def zero : Duration := ⟨0⟩

def ofMillis (millis : Nat) : Duration := ⟨millis * 1000000⟩

def ofSeconds (seconds : Nat) : Duration := ⟨seconds * 1000000000⟩

def ofMinutes (minutes : Nat) : Duration := ofSeconds (minutes * 60)

def seconds (duration : Duration) : Nat := duration.nanos / 1000000000

def millis (duration : Duration) : Nat := duration.nanos / 1000000

def isZero (duration : Duration) : Bool := duration.nanos = 0

inductive ReadError where
  | empty
  | numberExpected
  | invalidCharacter
  | unknownUnit (unit : String)
  | overflow
  deriving Repr, DecidableEq

namespace ReadError

def message : ReadError → String
  | empty => "value was empty"
  | numberExpected => "expected number"
  | invalidCharacter => "invalid character"
  | unknownUnit unit => s!"unknown time unit '{unit}'"
  | overflow => "number is too large"

end ReadError

/-- The nanoseconds in one unit. -/
def unitNanos? (unit : String) : Option Nat :=
  match unit with
  | "nanos" | "nsec" | "ns" => some 1
  | "usec" | "us" | "µs" => some 1000
  | "millis" | "msec" | "ms" => some 1000000
  | "seconds" | "second" | "secs" | "sec" | "s" => some 1000000000
  | "minutes" | "minute" | "min" | "mins" | "m" => some (60 * 1000000000)
  | "hours" | "hour" | "hrs" | "hr" | "h" => some (3600 * 1000000000)
  | "days" | "day" | "d" => some (86400 * 1000000000)
  | "weeks" | "week" | "wk" | "wks" | "w" => some (604800 * 1000000000)
  | "months" | "month" | "M" => some (2630016 * 1000000000)
  | "years" | "year" | "yr" | "yrs" | "y" => some (31557600 * 1000000000)
  | _ => none

def isUnitChar (char : Char) : Bool :=
  Text.isAsciiLetter char || char = 'µ'

/-- A count with the digits after its point, as a numerator over a power of
ten. -/
structure Count where
  whole : Nat
  numerator : Nat := 0
  denominator : Nat := 1

/-- Adds a count of a unit.  Counts below a second are limited in nanoseconds,
the others in seconds. -/
def addCount (total : Nat) (count : Count) (unit : List Char) :
    Except ReadError Nat :=
  match unitNanos? (String.ofList unit) with
  | none => .error (.unknownUnit (String.ofList unit))
  | some nanos =>
      let limit :=
        if nanos < 1000000000 then Text.limit64
        else Text.limit64 * 1000000000 + 999999999
      let added := count.whole * nanos
      let fraction := count.numerator * nanos / count.denominator
      let sum := total + added + fraction
      if added > limit ∨ sum > Text.limit64 * 1000000000 + 999999999 then
        .error .overflow
      else .ok sum

/-- What is being read: the digits of a count, those after its point, a unit,
or the start of the next count. -/
inductive Phase where
  | start
  | whole (value : Nat)
  | fraction (count : Count)
  | unit (count : Count) (letters : List Char)

/-- Adds a digit to a number that fits 64 bits. -/
def pushDigit (value : Nat) (char : Char) : Except ReadError Nat :=
  let next := value * 10 + Text.digitValue char
  if next > Text.limit64 then .error .overflow else .ok next

def readFrom (total : Nat) : Phase → List Char → Except ReadError Nat
  | .start, [] => .ok total
  | .whole value, [] => addCount total ⟨value, 0, 1⟩ []
  | .fraction count, [] =>
      if count.denominator = 1 then .error .invalidCharacter
      else addCount total count []
  | .unit count letters, [] => addCount total count letters.reverse
  | .start, char :: rest =>
      if Text.isAsciiDigit char then
        readFrom total (.whole (Text.digitValue char)) rest
      else if Text.isBlank char then readFrom total .start rest
      else .error .numberExpected
  | .whole value, char :: rest =>
      if Text.isAsciiDigit char then do
        readFrom total (.whole (← pushDigit value char)) rest
      else if Text.isBlank char then readFrom total (.whole value) rest
      else if isUnitChar char then
        readFrom total (.unit ⟨value, 0, 1⟩ [char]) rest
      else if char = '.' then readFrom total (.fraction ⟨value, 0, 1⟩) rest
      else .error .invalidCharacter
  | .fraction count, char :: rest =>
      if Text.isAsciiDigit char then do
        let numerator ← pushDigit count.numerator char
        let denominator := count.denominator * 10
        if denominator > Text.limit64 then throw .overflow
        readFrom total (.fraction ⟨count.whole, numerator, denominator⟩) rest
      else if Text.isBlank char then readFrom total (.fraction count) rest
      else if isUnitChar char then
        if count.denominator = 1 then .error .invalidCharacter
        else readFrom total (.unit count [char]) rest
      else .error .invalidCharacter
  | .unit count letters, char :: rest =>
      if Text.isAsciiDigit char then do
        let total ← addCount total count letters.reverse
        readFrom total (.whole (Text.digitValue char)) rest
      else if Text.isBlank char then do
        let total ← addCount total count letters.reverse
        readFrom total .start rest
      else if isUnitChar char then
        readFrom total (.unit count (char :: letters)) rest
      else .error .invalidCharacter

def read (text : String) : Except ReadError Duration :=
  if text.toList.all Text.isBlank then .error .empty
  else (readFrom 0 .start text.toList).map Duration.mk

/-- A count with its unit, unless the count is zero. -/
def item (unit : String) (plural : Bool) (count : Nat) : List String :=
  if count = 0 then []
  else [Text.decimal count ++ unit ++ (if plural && count > 1 then "s" else "")]

def write (duration : Duration) : String :=
  if duration.isZero then "0s"
  else
    let seconds := duration.seconds
    let nanos := duration.nanos % 1000000000
    let ofYear := seconds % 31557600
    let ofMonth := ofYear % 2630016
    let ofDay := ofMonth % 86400
    Text.join " " <|
      item "year" true (seconds / 31557600) ++
      item "month" true (ofYear / 2630016) ++
      item "day" true (ofMonth / 86400) ++
      item "h" false (ofDay / 3600) ++
      item "m" false (ofDay % 3600 / 60) ++
      item "s" false (ofDay % 60) ++
      item "ms" false (nanos / 1000000) ++
      item "us" false (nanos / 1000 % 1000) ++
      item "ns" false (nanos % 1000)

/-- The digits of a fraction below one with the given number of places, without
trailing zeros. -/
def fractionDigits (places value : Nat) : List Char :=
  let digits := Text.decimalDigits value
  Text.dropEndWhile (· = '0') (List.replicate (places - digits.length) '0' ++ digits)

/-- The duration in its largest unit up to seconds, with a fraction. -/
def compact (duration : Duration) : String :=
  let form (unit : Nat) (places : Nat) (name : String) : String :=
    let whole := Text.decimal (duration.nanos / unit)
    let fraction := duration.nanos % unit
    if fraction = 0 then whole ++ name
    else whole ++ "." ++ String.ofList (fractionDigits places fraction) ++ name
  if duration.nanos ≥ 1000000000 then form 1000000000 9 "s"
  else if duration.nanos ≥ 1000000 then form 1000000 6 "ms"
  else if duration.nanos ≥ 1000 then form 1000 3 "µs"
  else form 1 0 "ns"

end Duration

end EdgeGateway
