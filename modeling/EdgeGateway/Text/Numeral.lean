import EdgeGateway.Text.Ascii

/-!
# Decimal numerals

Counts, limits and weights are written as decimal numerals.  Reading one names
the cause when it cannot be read: nothing there, a character that is no digit,
or a value beyond the limit of the field.  A leading plus sign is allowed; a
lone sign is not a numeral.
-/

namespace EdgeGateway.Text

inductive NumeralError where
  | empty
  | invalidDigit
  | tooLarge
  | tooSmall
  deriving Repr, DecidableEq

namespace NumeralError

def message : NumeralError → String
  | empty => "cannot parse integer from empty string"
  | invalidDigit => "invalid digit found in string"
  | tooLarge => "number too large to fit in target type"
  | tooSmall => "number too small to fit in target type"

end NumeralError

def digitValue (char : Char) : Nat := char.toNat - '0'.toNat

/-- The value of a string of digits, most significant first. -/
def digitsValue (digits : List Char) : Nat :=
  digits.foldl (fun value char => value * 10 + digitValue char) 0

/-- Reads digits against a limit.  The cause reported is that of the first
digit at which reading stops, so a value that has outgrown the limit wins over
a bad character further on. -/
def readDigits (limit : Nat) (value : Nat) :
    List Char → Except NumeralError Nat
  | [] => .ok value
  | char :: rest =>
      if !isAsciiDigit char then .error .invalidDigit
      else if value * 10 > limit then .error .tooLarge
      else if value * 10 + digitValue char > limit then .error .tooLarge
      else readDigits limit (value * 10 + digitValue char) rest

def readNatural (limit : Nat) (text : String) : Except NumeralError Nat :=
  match text.toList with
  | [] => .error .empty
  | ['+'] => .error .invalidDigit
  | ['-'] => .error .invalidDigit
  | '+' :: rest => readDigits limit 0 rest
  | digits => readDigits limit 0 digits

/-- Largest value of the counts that fit a 16, 32 or 64 bit word. -/
def limit16 : Nat := Nat.pow 2 16 - 1
def limit32 : Nat := Nat.pow 2 32 - 1
def limit64 : Nat := Nat.pow 2 64 - 1

/-- Largest value of a word of 64 bits with a sign; the least is one further from
zero. -/
def limitSigned : Nat := Nat.pow 2 63 - 1

def decimalDigits (value : Nat) : List Char :=
  Nat.toDigits 10 value

def decimal (value : Nat) : String :=
  String.ofList (decimalDigits value)

def decimalInt : Int → String
  | .ofNat value => decimal value
  | .negSucc value => "-" ++ decimal (value + 1)

end EdgeGateway.Text
