import EdgeGateway.Document.Basic
import EdgeGateway.Json.Reader
import EdgeGateway.Unicode.CodeRanges

/-!
# Plain scalars

What an unquoted scalar stands for: null, a truth value, a whole number in base
2, 8, 10 or 16, or a floating point number.  Words such as `yes` are ordinary
text, and so are numerals with leading zeros.
-/

namespace EdgeGateway.Document

def isPlainNull (text : String) : Bool :=
  text = "" ∨ text = "~" ∨ text = "null" ∨ text = "Null" ∨ text = "NULL"

def plainBool? (text : String) : Option Bool :=
  if text = "true" ∨ text = "True" ∨ text = "TRUE" then some true
  else if text = "false" ∨ text = "False" ∨ text = "FALSE" then some false
  else none

def valueInBase? (base : Nat) (digits : List Char) : Option Nat :=
  if digits = [] then none
  else
    digits.foldl (fun value char =>
      value.bind fun total =>
        match Unicode.hexDigit? char with
        | some digit => if digit < base then some (total * base + digit) else none
        | none => none) (some 0)

/-- A decimal numeral with a leading zero is no number. -/
def hasLeadingZero (digits : List Char) : Bool :=
  match digits with
  | '0' :: next :: rest => (next :: rest).all Text.isAsciiDigit
  | _ => false

def unsignedOfDigits? (digits : List Char) : Option Nat :=
  match digits with
  | '0' :: 'x' :: rest => valueInBase? 16 rest
  | '0' :: 'o' :: rest => valueInBase? 8 rest
  | '0' :: 'b' :: rest => valueInBase? 2 rest
  | _ =>
      if digits.all Text.isAsciiDigit && !hasLeadingZero digits then
        valueInBase? 10 digits
      else none

def plainInt? (text : String) : Option Int :=
  match text.toList with
  | '-' :: rest => (unsignedOfDigits? rest).map fun value => -(value : Int)
  | '+' :: rest => (unsignedOfDigits? rest).map Int.ofNat
  | digits => (unsignedOfDigits? digits).map Int.ofNat

/-- The digits of a decimal fraction as a whole number and the places after the
point. -/
def decimalParts? (text : List Char) : Option (Nat × Int) :=
  let whole := text.takeWhile Text.isAsciiDigit
  let rest := text.drop whole.length
  let (fraction, rest) :=
    match rest with
    | '.' :: more =>
        let digits := more.takeWhile Text.isAsciiDigit
        (digits, more.drop digits.length)
    | _ => ([], rest)
  if whole = [] ∧ fraction = [] then none
  else
    let significand := Text.digitsValue (whole ++ fraction)
    let places : Int := fraction.length
    match rest with
    | [] => some (significand, -places)
    | mark :: exponent =>
        if mark = 'e' ∨ mark = 'E' then
          let (down, digits) :=
            match exponent with
            | '-' :: rest => (true, rest)
            | '+' :: rest => (false, rest)
            | _ => (false, exponent)
          if digits = [] ∨ !(digits.all Text.isAsciiDigit) then none
          else
            let value : Int := Text.digitsValue digits
            some (significand, (if down then -value else value) - places)
        else none

def floatOfParts (significand : Nat) (exponent : Int) : Float :=
  if exponent ≥ 0 then Float.ofScientific significand false exponent.toNat
  else Float.ofScientific significand true (-exponent).toNat

def plainFloat? (text : String) : Option Float :=
  let (negative, unsigned) :=
    match text.toList with
    | '-' :: rest => (true, rest)
    | '+' :: rest => (false, rest)
    | chars => (false, chars)
  let sign (value : Float) : Float := if negative then -value else value
  let body := String.ofList unsigned
  if body = ".inf" ∨ body = ".Inf" ∨ body = ".INF" then some (sign (1.0 / 0.0))
  else if text = ".nan" ∨ text = ".NaN" ∨ text = ".NAN" then some (0.0 / 0.0)
  else if hasLeadingZero unsigned then none
  else
    (decimalParts? unsigned).bind fun (significand, exponent) =>
      let value := floatOfParts significand exponent
      if value.isInf then none else some (sign value)

/-- What an unquoted scalar is as a JSON value; a number that is not finite has
no such value and becomes null. -/
def plainJson (text : String) : Json :=
  if isPlainNull text then .null
  else
    match plainBool? text with
    | some value => .bool value
    | none =>
        match plainInt? text with
        | some value =>
            if -(Text.limitSigned + 1 : Int) ≤ value ∧ value ≤ Text.limit64 then
              .number (.whole value)
            else
              let float := Float.ofScientific value.natAbs false 0
              .number (.double (if value < 0 then -float else float).toBits)
        | none =>
            match plainFloat? text with
            | some value =>
                if Decimal.isFinite value.toBits then
                  .number (.double value.toBits)
                else .null
            | none => .string text

mutual

/-- The document as a JSON value. -/
def toJson : Document → Json
  | missing => .null
  | null => .null
  | bool value => .bool value
  | number value => .number value
  | text value => .string value
  | plain value => plainJson value
  | sequence items => .array (toItems items)
  | mapping members => .object (toMembers members)

def toItems : List Document → List Json
  | [] => []
  | item :: items => toJson item :: toItems items

def toMembers : List (String × Document) → List (String × Json)
  | [] => []
  | (name, value) :: members => (name, toJson value) :: toMembers members

end

end EdgeGateway.Document
