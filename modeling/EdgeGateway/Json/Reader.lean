import EdgeGateway.Json.Basic
import EdgeGateway.Unicode.CodeRanges

/-!
# Reading JSON

A value is read from a list of characters and the characters after it are
returned.  A number with a fraction or an exponent, or beyond 64 bits, becomes a
double: the digits that fit 64 bits are rounded first and then scaled by a power
of ten, which is exact for short decimals.  Digits beyond those only count for
the exponent.  Nesting is limited.
-/

namespace EdgeGateway.Json

inductive ReadError where
  | unexpectedEnd
  | unexpectedCharacter
  | invalidNumber
  | numberOutOfRange
  | invalidString
  | tooDeep
  | trailingCharacters
  deriving Repr, DecidableEq

namespace ReadError

def message : ReadError → String
  | unexpectedEnd => "EOF while parsing a value"
  | unexpectedCharacter => "expected value"
  | invalidNumber => "invalid number"
  | numberOutOfRange => "number out of range"
  | invalidString => "invalid string"
  | tooDeep => "recursion limit exceeded"
  | trailingCharacters => "trailing characters"

end ReadError

def isSpace (char : Char) : Bool :=
  char = ' ' || char = '\n' || char = '\t' || char = '\r'

def skipSpace (text : List Char) : List Char := text.dropWhile isSpace

/-! ## Numbers -/

/-- Digits that still fit 64 bits after a value, with how many were taken, and
the text from the first that does not fit. -/
def takeFitting (value count : Nat) : List Char → Nat × Nat × List Char
  | [] => (value, count, [])
  | char :: rest =>
      if Text.isAsciiDigit char &&
          value * 10 + Text.digitValue char ≤ Text.limit64 then
        takeFitting (value * 10 + Text.digitValue char) (count + 1) rest
      else (value, count, char :: rest)

def skipDigits (text : List Char) : Nat × List Char :=
  let digits := text.takeWhile Text.isAsciiDigit
  (digits.length, text.drop digits.length)

/-- Scales by a power of ten in steps that a double can hold. -/
def scaleFloat : Nat → Float → Int → Option Float
  | 0, value, _ => some value
  | fuel + 1, value, exponent =>
      if exponent.natAbs ≤ 308 then
        let power := Float.ofScientific 1 false exponent.natAbs
        if exponent ≥ 0 then
          let scaled := value * power
          if scaled.isInf then none else some scaled
        else some (value / power)
      else if value == 0 then some value
      else if exponent ≥ 0 then none
      else
        scaleFloat fuel (value / Float.ofScientific 1 false 308) (exponent + 308)

def doubleOfParts (negative : Bool) (significand : Nat) (exponent : Int) :
    Except ReadError JsonNumber :=
  match scaleFloat (exponent.natAbs / 308 + 2) (Float.ofNat significand) exponent with
  | none => .error .numberOutOfRange
  | some value => .ok (.double (if negative then -value else value).toBits)

/-- The largest exponent that is not out of range by itself. -/
def exponentLimit : Nat := Nat.pow 2 31 - 1

/-- Reads what follows the letter of an exponent. -/
def readExponent (negative : Bool) (significand : Nat) (exponent : Int)
    (text : List Char) : Except ReadError (JsonNumber × List Char) :=
  let (down, text) :=
    match text with
    | '+' :: rest => (false, rest)
    | '-' :: rest => (true, rest)
    | _ => (false, text)
  let digits := text.takeWhile Text.isAsciiDigit
  let rest := text.drop digits.length
  if digits = [] then
    .error (if rest = [] then .unexpectedEnd else .invalidNumber)
  else
    let value := Text.digitsValue digits
    if value > exponentLimit then
      if significand ≠ 0 ∧ !down then .error .numberOutOfRange
      else .ok (.double (if negative then (-0.0 : Float) else 0.0).toBits, rest)
    else do
      let number ← doubleOfParts negative significand
        (if down then exponent - value else exponent + value)
      return (number, rest)

/-- Reads an exponent if there is one. -/
def readScale (negative : Bool) (significand : Nat) (exponent : Int)
    (text : List Char) : Except ReadError (JsonNumber × List Char) :=
  let plain := do
    let number ← doubleOfParts negative significand exponent
    return (number, text)
  match text with
  | char :: rest =>
      if char = 'e' ∨ char = 'E' then
        readExponent negative significand exponent rest
      else plain
  | [] => plain

/-- Reads what follows a decimal point. -/
def readFraction (negative : Bool) (significand : Nat) (exponent : Int)
    (text : List Char) : Except ReadError (JsonNumber × List Char) :=
  if !text.head?.any Text.isAsciiDigit then
    .error (if text = [] then .unexpectedEnd else .invalidNumber)
  else
    let (significand, count, rest) := takeFitting significand 0 text
    let (_, rest) := skipDigits rest
    readScale negative significand (exponent - count) rest

/-- Reads a number whose sign has been consumed. -/
def readMagnitude (negative : Bool) (text : List Char) :
    Except ReadError (JsonNumber × List Char) :=
  if !text.head?.any Text.isAsciiDigit then
    .error (if text = [] then .unexpectedEnd else .invalidNumber)
  else
    let (significand, _, rest) :=
      match text with
      | '0' :: rest => (0, 1, rest)
      | _ => takeFitting 0 0 text
    if text.head? = some '0' ∧ rest.head?.any Text.isAsciiDigit then
      .error .invalidNumber
    else
      let (dropped, rest) := skipDigits rest
      match rest with
      | '.' :: fraction => readFraction negative significand dropped fraction
      | _ =>
          if dropped > 0 ∨ rest.head? = some 'e' ∨ rest.head? = some 'E' then
            readScale negative significand dropped rest
          else if !negative then .ok (.whole significand, rest)
          else if significand = 0 ∨ significand > Text.limitSigned + 1 then do
            let number ← doubleOfParts true significand 0
            return (number, rest)
          else .ok (.whole (-(significand : Int)), rest)

/-! ## Strings -/

def readFourHex (text : List Char) : Option (Nat × List Char) :=
  match text with
  | a :: b :: c :: d :: rest =>
      (Unicode.hexValue? [a, b, c, d]).map fun code => (code, rest)
  | _ => none

/-- Reads what follows a backslash: one character and the text after it. -/
def readEscape (text : List Char) : Option (Char × List Char) :=
  match text with
  | 'n' :: rest => some ('\n', rest)
  | 't' :: rest => some ('\t', rest)
  | 'r' :: rest => some ('\r', rest)
  | 'b' :: rest => some ('\x08', rest)
  | 'f' :: rest => some ('\x0C', rest)
  | '"' :: rest => some ('"', rest)
  | '\\' :: rest => some ('\\', rest)
  | '/' :: rest => some ('/', rest)
  | 'u' :: rest =>
      match readFourHex rest with
      | none => none
      | some (code, rest) =>
          if 0xD800 ≤ code ∧ code ≤ 0xDBFF then
            match rest with
            | '\\' :: 'u' :: more =>
                match readFourHex more with
                | none => none
                | some (low, rest) =>
                    if 0xDC00 ≤ low ∧ low ≤ 0xDFFF then
                      some (Char.ofNat
                        (0x10000 + (code - 0xD800) * 0x400 + (low - 0xDC00)), rest)
                    else none
            | _ => none
          else if 0xDC00 ≤ code ∧ code ≤ 0xDFFF then none
          else some (Char.ofNat code, rest)
  | _ => none

/-- Reads up to the closing quote; `read` holds the characters so far, last
first. -/
def readStringFrom : Nat → List Char → List Char → Except ReadError (String × List Char)
  | 0, _, _ => .error .unexpectedEnd
  | _, _, [] => .error .unexpectedEnd
  | fuel + 1, read, char :: rest =>
      if char = '"' then .ok (String.ofList read.reverse, rest)
      else if char = '\\' then
        match readEscape rest with
        | some (escaped, rest) => readStringFrom fuel (escaped :: read) rest
        | none => .error .invalidString
      else if char.toNat < 32 then .error .invalidString
      else readStringFrom fuel (char :: read) rest

def readString (text : List Char) : Except ReadError (String × List Char) :=
  readStringFrom (text.length + 1) [] text

/-! ## Values -/

/-- How deep arrays and objects may be nested. -/
def depthLimit : Nat := 127

mutual

def readValue : Nat → Nat → List Char → Except ReadError (Json × List Char)
  | 0, _, _ => .error .tooDeep
  | fuel + 1, depth, text =>
      match skipSpace text with
      | [] => .error .unexpectedEnd
      | '"' :: rest => do
          let (value, rest) ← readString rest
          return (string value, rest)
      | '[' :: rest =>
          if depth = 0 then .error .tooDeep
          else
            match skipSpace rest with
            | ']' :: rest => .ok (array [], rest)
            | rest => do
                let (items, rest) ← readItems fuel (depth - 1) rest
                return (array items, rest)
      | '{' :: rest =>
          if depth = 0 then .error .tooDeep
          else
            match skipSpace rest with
            | '}' :: rest => .ok (object [], rest)
            | rest => do
                let (members, rest) ← readMembers fuel (depth - 1) rest
                return (object members, rest)
      | '-' :: rest => do
          let (value, rest) ← readMagnitude true rest
          return (number value, rest)
      | 't' :: 'r' :: 'u' :: 'e' :: rest => .ok (bool true, rest)
      | 'f' :: 'a' :: 'l' :: 's' :: 'e' :: rest => .ok (bool false, rest)
      | 'n' :: 'u' :: 'l' :: 'l' :: rest => .ok (null, rest)
      | char :: rest =>
          if Text.isAsciiDigit char then do
            let (value, rest) ← readMagnitude false (char :: rest)
            return (number value, rest)
          else .error .unexpectedCharacter

def readItems : Nat → Nat → List Char → Except ReadError (List Json × List Char)
  | 0, _, _ => .error .tooDeep
  | fuel + 1, depth, text => do
      let (item, rest) ← readValue fuel depth text
      match skipSpace rest with
      | ']' :: rest => return ([item], rest)
      | ',' :: rest =>
          let (items, rest) ← readItems fuel depth rest
          return (item :: items, rest)
      | [] => .error .unexpectedEnd
      | _ => .error .unexpectedCharacter

def readMembers : Nat → Nat → List Char →
    Except ReadError (List (String × Json) × List Char)
  | 0, _, _ => .error .tooDeep
  | fuel + 1, depth, text => do
      match skipSpace text with
      | '"' :: rest =>
          let (name, rest) ← readString rest
          match skipSpace rest with
          | ':' :: rest =>
              let (value, rest) ← readValue fuel depth rest
              match skipSpace rest with
              | '}' :: rest => return ([(name, value)], rest)
              | ',' :: rest =>
                  let (members, rest) ← readMembers fuel depth rest
                  return ((name, value) :: members, rest)
              | [] => .error .unexpectedEnd
              | _ => .error .unexpectedCharacter
          | [] => .error .unexpectedEnd
          | _ => .error .unexpectedCharacter
      | [] => .error .unexpectedEnd
      | _ => .error .unexpectedCharacter

end

/-- Reads a text that is one value. -/
def read (text : String) : Except ReadError Json := do
  let chars := text.toList
  let (value, rest) ← readValue (2 * chars.length + 2) depthLimit chars
  if skipSpace rest = [] then return value else .error .trailingCharacters

end EdgeGateway.Json
