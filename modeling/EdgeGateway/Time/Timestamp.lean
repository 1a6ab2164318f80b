import EdgeGateway.Text.Blank
import EdgeGateway.Text.Numeral
import EdgeGateway.Text.Pieces
import EdgeGateway.Text.Ascii

/-!
# Points in time

A timestamp is a number of seconds since the start of 1970 in universal time and
a number of nanoseconds into that second; a leap second is the end of the second
before it.  Days are counted in the proleptic Gregorian calendar from the first
of March, so that the leap day ends a year.
-/

namespace EdgeGateway

structure Timestamp where
  seconds : Int
  nanos : Nat
  deriving Repr, DecidableEq

namespace Timestamp

def isLeapYear (year : Int) : Bool :=
  year % 4 = 0 && (year % 100 ≠ 0 || year % 400 = 0)

def daysInMonth (year : Int) (month : Nat) : Nat :=
  if month = 2 then if isLeapYear year then 29 else 28
  else if month = 4 ∨ month = 6 ∨ month = 9 ∨ month = 11 then 30
  else 31

/-- Days from the start of 1970 to a date. -/
def daysFromDate (year : Int) (month day : Nat) : Int :=
  let shifted := if month ≤ 2 then year - 1 else year
  let era := shifted / 400
  let yearOfEra := shifted % 400
  let monthFromMarch : Int := ((month + 9) % 12 : Nat)
  let dayOfYear := (153 * monthFromMarch + 2) / 5 + (day : Int) - 1
  let dayOfEra := yearOfEra * 365 + yearOfEra / 4 - yearOfEra / 100 + dayOfYear
  era * 146097 + dayOfEra - 719468

/-- The year, month and day of a day counted from the start of 1970. -/
def dateFromDays (days : Int) : Int × Nat × Nat :=
  let shifted := days + 719468
  let era := shifted / 146097
  let dayOfEra := shifted % 146097
  let yearOfEra :=
    (dayOfEra - dayOfEra / 1460 + dayOfEra / 36524 - dayOfEra / 146096) / 365
  let dayOfYear := dayOfEra - (365 * yearOfEra + yearOfEra / 4 - yearOfEra / 100)
  let monthFromMarch := (5 * dayOfYear + 2) / 153
  let day := dayOfYear - (153 * monthFromMarch + 2) / 5 + 1
  let month := if monthFromMarch < 10 then monthFromMarch + 3 else monthFromMarch - 9
  let year := yearOfEra + era * 400
  (if month ≤ 2 then year + 1 else year, month.toNat, day.toNat)

/-- Up to `width` digits at the head of the text, after blanks. -/
def takeNumber? (width : Nat) (text : List Char) : Option (Nat × List Char) :=
  let text := text.dropWhile Text.isBlank
  let digits := (text.take width).takeWhile Text.isAsciiDigit
  if digits = [] then none
  else some (Text.digitsValue digits, text.drop digits.length)

/-- A year has four digits at most, or a sign and any number of them. -/
def takeYear? (text : List Char) : Option (Int × List Char) :=
  match text.dropWhile Text.isBlank with
  | '+' :: rest =>
      (takeNumber? rest.length rest).map fun (year, rest) => (year, rest)
  | '-' :: rest =>
      (takeNumber? rest.length rest).map fun (year, rest) => (-(year : Int), rest)
  | text => (takeNumber? 4 text).map fun (year, rest) => (year, rest)

def takeLiteral? (char : Char) : List Char → Option (List Char)
  | head :: rest => if head = char then some rest else none
  | [] => none

/-- A fraction of a second: nine places count, more are read and dropped. -/
def takeNanos? (text : List Char) : Option (Nat × List Char) :=
  match text with
  | '.' :: rest =>
      let digits := rest.takeWhile Text.isAsciiDigit
      if digits = [] then none
      else
        let places := digits.take 9
        some (Text.digitsValue places * Nat.pow 10 (9 - places.length),
          rest.drop digits.length)
  | _ => some (0, text)

/-- The distance of local time from universal time, in seconds. -/
def takeOffset? (text : List Char) : Option (Int × List Char) :=
  let text := text.dropWhile Text.isBlank
  match text with
  | 'Z' :: rest => some (0, rest)
  | 'z' :: rest => some (0, rest)
  | sign :: rest =>
      if (text.take 3).map Text.lowerAsciiChar = ['u', 't', 'c'] then
        some (0, text.drop 3)
      else if sign ≠ '+' ∧ sign ≠ '-' ∧ sign ≠ '−' then none
      else
        match rest with
        | tens :: ones :: rest =>
            if !(Text.isAsciiDigit tens && Text.isAsciiDigit ones) then none
            else
              let hours := Text.digitsValue [tens, ones]
              let rest := rest.dropWhile fun char => char = ':' || Text.isBlank char
              match rest with
              | tens :: ones :: rest =>
                  if !(Text.isAsciiDigit tens && Text.isAsciiDigit ones) then none
                  else
                    let minutes := Text.digitsValue [tens, ones]
                    if minutes > 59 ∨ hours > 23 then none
                    else
                      let distance : Int := (hours * 60 + minutes) * 60
                      some (if sign = '+' then distance else -distance, rest)
              | _ => none
        | _ => none
  | [] => none

/-- Reads a date, a time of day and an offset. -/
def read? (text : String) : Option Timestamp := do
  let (year, rest) ← takeYear? text.toList
  let rest ← takeLiteral? '-' (rest.dropWhile Text.isBlank)
  let (month, rest) ← takeNumber? 2 rest
  let rest ← takeLiteral? '-' (rest.dropWhile Text.isBlank)
  let (day, rest) ← takeNumber? 2 rest
  let rest ←
    match rest with
    | 'T' :: rest => some rest
    | 't' :: rest => some rest
    | ' ' :: rest => some rest
    | _ => none
  let (hour, rest) ← takeNumber? 2 rest
  let rest ← takeLiteral? ':' (rest.dropWhile Text.isBlank)
  let (minute, rest) ← takeNumber? 2 rest
  let rest ← takeLiteral? ':' (rest.dropWhile Text.isBlank)
  let (second, rest) ← takeNumber? 2 rest
  let (nanos, rest) ← takeNanos? rest
  let (offset, rest) ← takeOffset? rest
  if rest.dropWhile Text.isBlank ≠ [] then none
  if month < 1 ∨ month > 12 ∨ day < 1 ∨ day > daysInMonth year month then none
  if year < -262143 ∨ year > 262142 then none
  if hour > 23 ∨ minute > 59 ∨ second > 60 then none
  let leap := second = 60
  let inDay : Nat := (hour * 60 + minute) * 60 + (if leap then 59 else second)
  return ⟨daysFromDate year month day * 86400 + inDay - offset,
    if leap then nanos + 1000000000 else nanos⟩

def padded (width value : Nat) : String :=
  let digits := Text.decimalDigits value
  String.ofList (List.replicate (width - digits.length) '0' ++ digits)

/-- As many places of the fraction as needed, in groups of three. -/
def fractionText (nanos : Nat) : String :=
  if nanos = 0 then ""
  else if nanos % 1000000 = 0 then "." ++ padded 3 (nanos / 1000000)
  else if nanos % 1000 = 0 then "." ++ padded 6 (nanos / 1000)
  else "." ++ padded 9 nanos

def write (timestamp : Timestamp) : String :=
  let (year, month, day) := dateFromDays (timestamp.seconds / 86400)
  let inDay := (timestamp.seconds % 86400).toNat
  let leap := timestamp.nanos ≥ 1000000000
  let second := inDay % 60 + (if leap then 1 else 0)
  let yearText :=
    if 0 ≤ year ∧ year ≤ 9999 then padded 4 year.toNat
    else (if year < 0 then "-" else "+") ++ padded 4 year.natAbs
  yearText ++ "-" ++ padded 2 month ++ "-" ++ padded 2 day ++ "T" ++
    padded 2 (inDay / 3600) ++ ":" ++ padded 2 (inDay / 60 % 60) ++ ":" ++
    padded 2 second ++ fractionText (timestamp.nanos % 1000000000) ++ "Z"

end Timestamp

end EdgeGateway
