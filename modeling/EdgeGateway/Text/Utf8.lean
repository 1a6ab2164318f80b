/-!
# UTF-8

Characters are one to four bytes.  Decoding never fails: the longest run of
bytes that could begin a character but does not complete one becomes a single
replacement character, and so does a byte that begins none.
-/

namespace EdgeGateway.Text

def encodeChar (char : Char) : List Nat :=
  let code := char.toNat
  if code < 0x80 then [code]
  else if code < 0x800 then [0xC0 + code / 64, 0x80 + code % 64]
  else if code < 0x10000 then
    [0xE0 + code / 4096, 0x80 + code / 64 % 64, 0x80 + code % 64]
  else
    [0xF0 + code / 262144, 0x80 + code / 4096 % 64, 0x80 + code / 64 % 64,
      0x80 + code % 64]

def encodeUtf8 (chars : List Char) : List Nat := chars.flatMap encodeChar

def byteLength (text : String) : Nat := text.utf8ByteSize

def replacementChar : Char := Char.ofNat 0xFFFD

/-- What a first byte asks for: how many bytes follow, the range of the next one
and the bits that it carries itself. -/
def leadByte? (byte : Nat) : Option (Nat × Nat × Nat × Nat) :=
  if 0xC2 ≤ byte ∧ byte ≤ 0xDF then some (1, 0x80, 0xBF, byte - 0xC0)
  else if byte = 0xE0 then some (2, 0xA0, 0xBF, 0)
  else if byte = 0xED then some (2, 0x80, 0x9F, 0xD)
  else if 0xE1 ≤ byte ∧ byte ≤ 0xEF then some (2, 0x80, 0xBF, byte - 0xE0)
  else if byte = 0xF0 then some (3, 0x90, 0xBF, 0)
  else if 0xF1 ≤ byte ∧ byte ≤ 0xF3 then some (3, 0x80, 0xBF, byte - 0xF0)
  else if byte = 0xF4 then some (3, 0x80, 0x8F, 4)
  else none

/-- A character that is being read. -/
structure PartialChar where
  left : Nat
  low : Nat
  high : Nat
  value : Nat

/-- What a byte does when no character is being read. -/
def startChar (byte : Nat) : List Char × Option PartialChar :=
  if byte < 0x80 then ([Char.ofNat byte], none)
  else
    match leadByte? byte with
    | some (left, low, high, value) => ([], some ⟨left, low, high, value⟩)
    | none => ([replacementChar], none)

def decodeFrom : Option PartialChar → List Nat → List Char
  | none, [] => []
  | some _, [] => [replacementChar]
  | none, byte :: bytes =>
      let (chars, state) := startChar byte
      chars ++ decodeFrom state bytes
  | some state, byte :: bytes =>
      if state.low ≤ byte ∧ byte ≤ state.high then
        let value := state.value * 64 + (byte - 0x80)
        if state.left = 1 then Char.ofNat value :: decodeFrom none bytes
        else decodeFrom (some ⟨state.left - 1, 0x80, 0xBF, value⟩) bytes
      else
        let (chars, next) := startChar byte
        replacementChar :: chars ++ decodeFrom next bytes

def decodeUtf8 (bytes : List Nat) : List Char := decodeFrom none bytes

end EdgeGateway.Text
