/-!
# ASCII letters

Names that the gateway compares without regard to case are compared by their
ASCII letters only; every other character stands for itself.
-/

namespace EdgeGateway.Text

def lowerAsciiChar (char : Char) : Char :=
  if 'A' ≤ char ∧ char ≤ 'Z' then Char.ofNat (char.toNat + 32) else char

def upperAsciiChar (char : Char) : Char :=
  if 'a' ≤ char ∧ char ≤ 'z' then Char.ofNat (char.toNat - 32) else char

def isAsciiLetter (char : Char) : Bool :=
  ('a' ≤ char && char ≤ 'z') || ('A' ≤ char && char ≤ 'Z')

def isAsciiDigit (char : Char) : Bool :=
  '0' ≤ char && char ≤ '9'

def isAsciiAlphanumeric (char : Char) : Bool :=
  isAsciiLetter char || isAsciiDigit char

def lowerAscii (text : String) : String :=
  String.ofList (text.toList.map lowerAsciiChar)

def upperAscii (text : String) : String :=
  String.ofList (text.toList.map upperAsciiChar)

def equalIgnoringCase (left right : String) : Bool :=
  lowerAscii left == lowerAscii right

end EdgeGateway.Text
