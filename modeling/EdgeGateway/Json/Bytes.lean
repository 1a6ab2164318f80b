import EdgeGateway.Json.Reader
import EdgeGateway.Text.Utf8

/-!
# JSON as bytes

A body is read byte by byte, and here a character stands for one byte.  The bytes
of a text that is kept have to be UTF-8.  A value that nobody asks for is read
over: its texts may hold any bytes, its escapes any four hexadecimal digits, its
numbers any exponent, and it may be nested as deep as it likes.
-/

namespace EdgeGateway.Json

/-- The bytes of a body, one character each. -/
def byteChars (body : ByteArray) : List Char :=
  body.data.toList.map fun byte => Char.ofNat byte.toNat

/-- Reads the bytes of a text up to the closing quote; `read` holds the bytes so
far, last first. -/
def readBytesFrom : Nat → List Nat → List Char → Except ReadError (List Nat × List Char)
  | 0, _, _ => .error .unexpectedEnd
  | _, _, [] => .error .unexpectedEnd
  | fuel + 1, read, char :: rest =>
      if char = '"' then .ok (read.reverse, rest)
      else if char = '\\' then
        match readEscape rest with
        | some (escaped, rest) =>
            readBytesFrom fuel ((Text.encodeChar escaped).reverse ++ read) rest
        | none => .error .invalidString
      else if char.toNat < 32 then .error .invalidString
      else readBytesFrom fuel (char.toNat :: read) rest

/-- Reads a text whose opening quote has been consumed. -/
def readByteString (text : List Char) : Except ReadError (String × List Char) := do
  let (bytes, rest) ← readBytesFrom (text.length + 1) [] text
  match String.fromUTF8? ⟨(bytes.map UInt8.ofNat).toArray⟩ with
  | some value => return (value, rest)
  | none => throw .invalidString

/-! ## Reading over a value -/

def skipString : List Char → Option (List Char)
  | [] => none
  | '"' :: rest => some rest
  | '\\' :: 'u' :: a :: b :: c :: d :: rest =>
      if [a, b, c, d].all fun char => (Unicode.hexDigit? char).isSome then
        skipString rest
      else none
  | '\\' :: char :: rest =>
      if "\"\\/bfnrt".toList.contains char then skipString rest else none
  | '\\' :: [] => none
  | char :: rest => if char.toNat < 32 then none else skipString rest

/-- Reads over one digit or more. -/
def skipSomeDigits? (text : List Char) : Option (List Char) :=
  if text.head?.any Text.isAsciiDigit then some (skipDigits text).2 else none

def skipScale (text : List Char) : Option (List Char) :=
  match text with
  | char :: rest =>
      if char = 'e' ∨ char = 'E' then
        match rest with
        | '+' :: digits => skipSomeDigits? digits
        | '-' :: digits => skipSomeDigits? digits
        | digits => skipSomeDigits? digits
      else some text
  | [] => some []

/-- Reads over a number whose sign has been consumed. -/
def skipMagnitude (text : List Char) : Option (List Char) := do
  let rest ←
    match text with
    | '0' :: rest => if rest.head?.any Text.isAsciiDigit then none else some rest
    | _ => skipSomeDigits? text
  match rest with
  | '.' :: fraction => skipScale (← skipSomeDigits? fraction)
  | _ => skipScale rest

def skipScalar (text : List Char) : Option (List Char) :=
  match text with
  | '"' :: rest => skipString rest
  | 't' :: 'r' :: 'u' :: 'e' :: rest => some rest
  | 'f' :: 'a' :: 'l' :: 's' :: 'e' :: rest => some rest
  | 'n' :: 'u' :: 'l' :: 'l' :: rest => some rest
  | '-' :: rest => skipMagnitude rest
  | _ => skipMagnitude text

/-- What a value stands in. -/
inductive Enclosure where
  | array
  | object

/-- Reads over the name of a member and the colon behind it. -/
def skipName (text : List Char) : Option (List Char) := do
  match skipSpace text with
  | '"' :: rest =>
      match skipSpace (← skipString rest) with
      | ':' :: rest => return rest
      | _ => none
  | _ => none

/-- Reads on at a value, or behind one if it has `ended`, up to the end of the
outermost; `around` is what the value stands in, innermost first. -/
def skipFrom : Nat → Bool → List Enclosure → List Char → Option (List Char)
  | 0, _, _, _ => none
  | _, true, [], text => some text
  | fuel + 1, true, .array :: around, text =>
      match skipSpace text with
      | ']' :: rest => skipFrom fuel true around rest
      | ',' :: rest => skipFrom fuel false (.array :: around) rest
      | _ => none
  | fuel + 1, true, .object :: around, text =>
      match skipSpace text with
      | '}' :: rest => skipFrom fuel true around rest
      | ',' :: rest =>
          (skipName rest).bind (skipFrom fuel false (.object :: around))
      | _ => none
  | fuel + 1, false, around, text =>
      match skipSpace text with
      | '[' :: rest =>
          match skipSpace rest with
          | ']' :: rest => skipFrom fuel true around rest
          | rest => skipFrom fuel false (.array :: around) rest
      | '{' :: rest =>
          match skipSpace rest with
          | '}' :: rest => skipFrom fuel true around rest
          | rest => (skipName rest).bind (skipFrom fuel false (.object :: around))
      | rest => (skipScalar rest).bind (skipFrom fuel true around)

/-- Reads over one value. -/
def skipValue (text : List Char) : Option (List Char) :=
  skipFrom (text.length + 2) false [] text

end EdgeGateway.Json
