import EdgeGateway.Http.Headers
import EdgeGateway.Text.Blank
import EdgeGateway.Text.Numeral
import EdgeGateway.Text.Pieces
import EdgeGateway.Unicode.CodeRanges

/-!
# Messages

A message has a head and a body.  The head is a first line and one line for each
field, and an empty line ends it.  The fields say how far the body reaches: it
has a stated length, or it comes in chunks that each state theirs, or it goes on
to the end of the connection.  Every reader answers nothing as long as there is
too little to read.
-/

namespace EdgeGateway.Http

structure Head where
  line : String
  headers : Headers
  deriving Repr, DecidableEq

inductive Framing where
  | sized (length : Nat)
  | chunked
  | untilEnd
  deriving Repr, DecidableEq

/-- The place after the next end of a line at or behind a place. -/
def lineEnd? (bytes : ByteArray) : Nat → Nat → Option Nat
  | 0, _ => none
  | fuel + 1, place =>
      if bytes[place]? = some 13 ∧ bytes[place + 1]? = some 10 then some (place + 2)
      else lineEnd? bytes fuel (place + 1)

/-- The text of a line that ends before a place. -/
def lineText (bytes : ByteArray) (start finish : Nat) : String :=
  String.ofList <| Text.decodeUtf8 <|
    (bytes.extract start (finish - 2)).toList.map UInt8.toNat

/-- The lines before the first empty line, and the place behind it. -/
def headLines? (bytes : ByteArray) : Nat → Nat → Option (List String × Nat)
  | 0, _ => none
  | fuel + 1, place => do
      let next ← lineEnd? bytes (bytes.size - place) place
      if next = place + 2 then return ([], next)
      let (lines, finish) ← headLines? bytes fuel next
      return (lineText bytes place next :: lines, finish)

namespace Head

def field? (line : String) : Option (String × String) :=
  (Text.splitFirst? ':' line).map fun (name, value) => (name, Text.trim value)

/-- A head and the place at which its body begins. -/
def read? (bytes : ByteArray) : Option (Head × Nat) := do
  match ← headLines? bytes (bytes.size + 1) 0 with
  | (line :: fields, finish) =>
      return (⟨line, .ofList (fields.filterMap field?)⟩, finish)
  | ([], _) => none

def write (head : Head) : String :=
  let fields := head.headers.fields.map fun (name, value) => name ++ ": " ++ value
  Text.join "\r\n" (head.line :: fields) ++ "\r\n\r\n"

/-- The words of the first line. -/
def words (head : Head) : List String :=
  (Text.split ' ' head.line).filter (· ≠ "")

/-- How far the body reaches; without any sign of it, as told. -/
def framing (head : Head) (otherwise : Framing) : Framing :=
  if (head.headers.text? "transfer-encoding").any fun value =>
      Text.lowerAscii value = "chunked" then .chunked
  else
    match (head.headers.text? "content-length").map
        (Text.readNatural Text.limit64) with
    | some (.ok length) => .sized length
    | _ => otherwise

end Head

/-- The number in the line that begins a chunk. -/
def chunkSize? (line : String) : Option Nat :=
  let digits := line.toList.takeWhile fun char => (Unicode.hexDigit? char).isSome
  if digits = [] then none
  else some (digits.foldl (fun value char =>
    16 * value + (Unicode.hexDigit? char).getD 0) 0)

/-- Puts chunks together until an empty one. -/
def joinChunks? (bytes : ByteArray) : Nat → Nat → ByteArray → Option ByteArray
  | 0, _, _ => none
  | fuel + 1, place, joined => do
      let start ← lineEnd? bytes (bytes.size - place) place
      let size ← chunkSize? (lineText bytes place start)
      if size = 0 then return joined
      if bytes.size < start + size + 2 then none
      joinChunks? bytes fuel (start + size + 2)
        (joined ++ bytes.extract start (start + size))

/-- The body of a message whose bytes have come in so far, `ended` if no more
will come. -/
def readBody? (framing : Framing) (ended : Bool) (bytes : ByteArray) :
    Option ByteArray :=
  match framing with
  | .sized length =>
      if length ≤ bytes.size then some (bytes.extract 0 length) else none
  | .chunked => joinChunks? bytes (bytes.size + 1) 0 .empty
  | .untilEnd => if ended then some bytes else none

end EdgeGateway.Http
