import EdgeGateway.Text.Ascii
import EdgeGateway.Text.Pieces
import EdgeGateway.Unicode.Property

/-!
# International names

A label of a domain may hold characters beyond ASCII, as they are or written in
ASCII after `xn--`.  In the written form the ASCII characters come first, and
then numbers that say which character is to be inserted where: each is the
distance from the last insertion in the order of characters and places.  A number
is written with digits whose weights depend on the numbers before it.
-/

namespace EdgeGateway.Net.InternationalName

def digit? (char : Char) : Option Nat :=
  let lower := Text.lowerAsciiChar char
  if 'a' ≤ lower ∧ lower ≤ 'z' then some (lower.toNat - 'a'.toNat)
  else if Text.isAsciiDigit lower then some (lower.toNat - '0'.toNat + 26)
  else none

/-- The least digit at a place that does not end a number. -/
def threshold (bias place : Nat) : Nat :=
  if place ≤ bias then 1 else if bias + 26 ≤ place then 26 else place - bias

/-- The number that begins a text, added to a sum, and the rest of the text. -/
def readDistance? (bias : Nat) : (place weight sum : Nat) → List Char →
    Option (Nat × List Char)
  | _, _, _, [] => none
  | place, weight, sum, char :: rest => do
      let digit ← digit? char
      let sum := sum + digit * weight
      let threshold := threshold bias place
      if digit < threshold then return (sum, rest)
      else readDistance? bias (place + 36) (weight * (36 - threshold)) sum rest

def scaleDown : Nat → Nat → Nat → Nat
  | 0, _, bias => bias
  | fuel + 1, delta, bias =>
      if delta > 455 then scaleDown fuel (delta / 35) (bias + 36)
      else bias + 36 * delta / (delta + 38)

/-- The bias after a distance, when there are so many characters. -/
def adapt (distance count : Nat) (first : Bool) : Nat :=
  let delta := distance / (if first then 700 else 2)
  scaleDown 64 (delta + delta / count) 0

/-- Inserts the characters that the rest of a label tells of. -/
def insertRest? : Nat → (chars : List Char) → (code place bias : Nat) →
    List Char → Option (List Char)
  | _, chars, _, _, _, [] => some chars
  | 0, _, _, _, _, _ => none
  | fuel + 1, chars, code, place, bias, text => do
      let (sum, rest) ← readDistance? bias 36 1 place text
      let count := chars.length + 1
      let code := code + sum / count
      if !code.isValidChar then none
      let place := sum % count
      insertRest? fuel (chars.insertIdx place (Char.ofNat code)) code (place + 1)
        (adapt (sum - place) count (chars = [])) rest

/-- The label that is written in ASCII, without its mark. -/
def decode? (text : List Char) : Option (List Char) :=
  match Text.splitAtFirst? '-' text.reverse with
  | some (rest, base) =>
      if base = [] ∨ rest = [] then none
      else insertRest? rest.length base.reverse 128 0 72 rest.reverse
  | none => insertRest? text.length [] 128 0 72 text

/-- The categories whose characters do not stand in a label. -/
def excluded : Unicode.CodeRanges :=
  Unicode.categoryMembers ["cc", "cf", "co", "zs", "zl", "zp"]

/-- Whether a character beyond ASCII may stand in a label. -/
def isAllowed (char : Char) : Bool :=
  !excluded.containsChar char && !Unicode.unassignedMembers.containsChar char

/-- The characters that are left out of a label, where they are as they are: the
soft hyphen, and the joiners without a width. -/
def isLeftOut (char : Char) : Bool :=
  "\u00ad\u200b\u2060\ufeff".toList.contains char

/-- Whether a text may be a label of a domain.  In the written form something
beyond ASCII has to be written. -/
def isLabel (label : List Char) : Bool :=
  match label with
  | 'x' :: 'n' :: '-' :: '-' :: written =>
      match decode? written with
      | some chars =>
          chars.any (fun char => char.toNat ≥ 128) &&
            chars.all fun char => char.toNat < 128 || isAllowed char
      | none => false
  | _ => label.all fun char =>
      char.toNat < 128 || isLeftOut char || isAllowed char

end EdgeGateway.Net.InternationalName
