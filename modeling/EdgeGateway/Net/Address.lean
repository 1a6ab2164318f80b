import EdgeGateway.Text.Numeral
import EdgeGateway.Text.Pieces
import EdgeGateway.Unicode.CodeRanges

/-!
# Network addresses

An address has four octets in decimal, without leading zeros, or eight groups
of up to four hexadecimal digits.  In the second form one run of zero groups may
be left out, and the last two groups may be written as four octets.  A socket
address adds a number; around an address of the second form it needs brackets.
-/

namespace EdgeGateway.Net

inductive IpAddress where
  | four (octets : List Nat)
  | six (groups : List Nat)
  deriving Repr, DecidableEq

namespace IpAddress

def readOctet? (digits : List Char) : Option Nat :=
  if digits = [] ∨ digits.length > 3 ∨ !(digits.all Text.isAsciiDigit) then none
  else if digits.head? = some '0' ∧ digits.length > 1 then none
  else
    let value := Text.digitsValue digits
    if value ≤ 255 then some value else none

def readFour? (text : List Char) : Option (List Nat) :=
  let parts := Text.splitAtEvery '.' text
  if parts.length ≠ 4 then none else parts.mapM readOctet?

def readGroup? (digits : List Char) : Option Nat :=
  if digits.length > 4 then none else Unicode.hexValue? digits

/-- Groups between colons; the last one may be four octets if `tail` allows. -/
def readGroups? (tail : Bool) : List (List Char) → Option (List Nat)
  | [] => some []
  | [last] =>
      match readGroup? last with
      | some group => some [group]
      | none =>
          if tail then
            match readFour? last with
            | some [a, b, c, d] => some [a * 256 + b, c * 256 + d]
            | _ => none
          else none
  | part :: parts => do
      let group ← readGroup? part
      let groups ← readGroups? tail parts
      return group :: groups

def groupsOf? (tail : Bool) (text : List Char) : Option (List Nat) :=
  if text = [] then some []
  else readGroups? tail (Text.splitAtEvery ':' text)

/-- Cuts at the first pair of colons. -/
def splitAtGap? : List Char → Option (List Char × List Char)
  | ':' :: ':' :: rest => some ([], rest)
  | char :: rest =>
      (splitAtGap? rest).map fun (before, after) => (char :: before, after)
  | [] => none

def readSix? (text : List Char) : Option (List Nat) :=
  match splitAtGap? text with
  | none =>
      (groupsOf? true text).bind fun groups =>
        if groups.length = 8 then some groups else none
  | some (before, after) => do
      let front ← groupsOf? false before
      let back ← groupsOf? true after
      let missing := 8 - (front.length + back.length)
      if front.length + back.length ≤ 7 then
        return front ++ List.replicate missing 0 ++ back
      else none

def read? (text : String) : Option IpAddress :=
  match readFour? text.toList with
  | some octets => some (four octets)
  | none => (readSix? text.toList).map six

def hexText (value : Nat) : String := String.ofList (Nat.toDigits 16 value)

/-- The start and length of the first longest run of zero groups, where `run`
groups before `index` are zero. -/
def longestZeros (index run : Nat) (best : Nat × Nat) : List Nat → Nat × Nat
  | [] => best
  | group :: groups =>
      if group = 0 then
        let run := run + 1
        longestZeros (index + 1) run
          (if run > best.2 then (index + 1 - run, run) else best) groups
      else longestZeros (index + 1) 0 best groups

def write : IpAddress → String
  | four octets => Text.join "." (octets.map Text.decimal)
  | six groups =>
      match groups with
      | [0, 0, 0, 0, 0, 0xFFFF, high, low] =>
          "::ffff:" ++ Text.join "." ([high / 256, high % 256, low / 256,
            low % 256].map Text.decimal)
      | _ =>
          let (start, length) := longestZeros 0 0 (0, 0) groups
          let texts := groups.map hexText
          if length > 1 then
            Text.join ":" (texts.take start) ++ "::" ++
              Text.join ":" (texts.drop (start + length))
          else Text.join ":" texts

/-- Whether every host takes the address for its own. -/
def isOwn : IpAddress → Bool
  | four octets => octets.head? = some 127 || octets.all (· = 0)
  | six groups => groups.dropLast.all (· = 0) && (groups.getLast?.getD 0) ≤ 1

end IpAddress

structure SocketAddress where
  address : IpAddress
  number : Nat
  deriving Repr, DecidableEq

namespace SocketAddress

def readSocketNumber? (digits : List Char) : Option Nat :=
  if digits = [] ∨ !(digits.all Text.isAsciiDigit) then none
  else
    let value := Text.digitsValue digits
    if value ≤ Text.limit16 then some value else none

/-- Cuts at the last colon. -/
def splitNumber? (text : List Char) : Option (List Char × List Char) :=
  (Text.splitAtFirst? ':' text.reverse).map fun (number, host) =>
    (host.reverse, number.reverse)

def read? (text : String) : Option SocketAddress := do
  let (host, number) ← splitNumber? text.toList
  let number ← readSocketNumber? number
  match host with
  | '[' :: inner =>
      match inner.reverse with
      | ']' :: reversed => do
          let groups ← IpAddress.readSix? reversed.reverse
          return ⟨.six groups, number⟩
      | _ => none
  | _ => do
      let octets ← IpAddress.readFour? host
      return ⟨.four octets, number⟩

def write (socket : SocketAddress) : String :=
  match socket.address with
  | .four _ => socket.address.write ++ ":" ++ Text.decimal socket.number
  | .six _ => "[" ++ socket.address.write ++ "]:" ++ Text.decimal socket.number

end SocketAddress

end EdgeGateway.Net
