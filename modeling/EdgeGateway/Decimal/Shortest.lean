import EdgeGateway.Text.Numeral

/-!
# Shortest decimals

A finite double is a whole number times a power of two.  All reals nearer to it
than to any other double are read back as it, the ends of that interval
included when its mantissa is even.  The decimal written for it has the fewest
digits among the decimals in the interval, and is the nearest to the value
among those.  Everything is computed with whole numbers: a grid of decimals with
a given number of digits has a point in the interval only if one of the two
neighbours of the value on that grid lies in it.
-/

namespace EdgeGateway.Decimal

/-- The magnitude `mantissa * 2 ^ exponent` of a finite double.  `narrow` says
that the next smaller double is half as far away as the next larger one. -/
structure Magnitude where
  mantissa : Nat
  exponent : Int
  narrow : Bool
  deriving Repr, DecidableEq

namespace Magnitude

def ofBits (bits : UInt64) : Magnitude :=
  let fraction : Nat := bits.toNat % Nat.pow 2 52
  let power : Nat := bits.toNat / Nat.pow 2 52 % Nat.pow 2 11
  if power = 0 then ⟨fraction, -1074, false⟩
  else ⟨Nat.pow 2 52 + fraction, (power : Int) - 1075, fraction = 0 && power > 1⟩

end Magnitude

/-- A non-negative fraction. -/
structure Ratio where
  num : Nat
  den : Nat
  deriving Repr

namespace Ratio

def scaleTwo (value : Ratio) : Int → Ratio
  | .ofNat power => ⟨value.num * Nat.pow 2 power, value.den⟩
  | .negSucc power => ⟨value.num, value.den * Nat.pow 2 (power + 1)⟩

def scaleTen (value : Ratio) : Int → Ratio
  | .ofNat power => ⟨value.num * Nat.pow 10 power, value.den⟩
  | .negSucc power => ⟨value.num, value.den * Nat.pow 10 (power + 1)⟩

def lt (left right : Ratio) : Bool :=
  left.num * right.den < right.num * left.den

def le (left right : Ratio) : Bool :=
  left.num * right.den ≤ right.num * left.den

def floor (value : Ratio) : Nat := value.num / value.den

/-- The number of digits before the point, less one; negative for values below
one.  `fuel` bounds the number of leading zeros that are looked at. -/
def tenExponentBelowOne : Nat → Ratio → Int
  | 0, _ => 0
  | fuel + 1, value =>
      if value.num * 10 ≥ value.den then -1
      else tenExponentBelowOne fuel ⟨value.num * 10, value.den⟩ - 1

def tenExponent (value : Ratio) : Int :=
  if value.num ≥ value.den then
    ((Text.decimalDigits value.floor).length : Int) - 1
  else tenExponentBelowOne 400 value

end Ratio

/-- The reals that are read back as one double. -/
structure Interval where
  low : Ratio
  value : Ratio
  high : Ratio
  closed : Bool

namespace Interval

def ofMagnitude (magnitude : Magnitude) : Interval :=
  let point (quarters : Nat) : Ratio :=
    (Ratio.mk quarters 1).scaleTwo (magnitude.exponent - 2)
  let center := 4 * magnitude.mantissa
  ⟨point (center - (if magnitude.narrow then 1 else 2)), point center,
    point (center + 2), magnitude.mantissa % 2 = 0⟩

def contains (interval : Interval) (point : Ratio) : Bool :=
  if interval.closed then interval.low.le point && point.le interval.high
  else interval.low.lt point && point.lt interval.high

end Interval

/-- The decimal `digits * 10 ^ exponent`. -/
structure Scientific where
  digits : Nat
  exponent : Int
  deriving Repr, DecidableEq

namespace Scientific

def toRatio (decimal : Scientific) : Ratio :=
  (Ratio.mk decimal.digits 1).scaleTen decimal.exponent

/-- Drops trailing zeros of the digits. -/
def trimZeros : Nat → Scientific → Scientific
  | 0, decimal => decimal
  | fuel + 1, decimal =>
      if decimal.digits ≠ 0 ∧ decimal.digits % 10 = 0 then
        trimZeros fuel ⟨decimal.digits / 10, decimal.exponent + 1⟩
      else decimal

end Scientific

/-- The point of the grid `10 ^ exponent` in the interval that is nearest to
its value, if there is one. -/
def nearestOnGrid? (interval : Interval) (exponent : Int) : Option Scientific :=
  let scaled := interval.value.scaleTen (-exponent)
  let below := scaled.floor
  let lower : Scientific := ⟨below, exponent⟩
  let upper : Scientific := ⟨below + 1, exponent⟩
  let lowerIn := interval.contains lower.toRatio
  let upperIn := interval.contains upper.toRatio
  let remainder := scaled.num - below * scaled.den
  if lowerIn && upperIn then
    if 2 * remainder < scaled.den ∨
        (2 * remainder = scaled.den ∧ below % 2 = 0) then some lower
    else some upper
  else if lowerIn then some lower
  else if upperIn then some upper
  else none

def shortestFrom (interval : Interval) (top : Int) : Nat → Nat → Scientific
  | 0, count => ⟨0, top - count⟩
  | fuel + 1, count =>
      match nearestOnGrid? interval (top - (count : Int)) with
      | some decimal => decimal.trimZeros 17
      | none => shortestFrom interval top fuel (count + 1)

/-- The shortest decimal of a positive finite double. -/
def shortest (magnitude : Magnitude) : Scientific :=
  let interval := Interval.ofMagnitude magnitude
  shortestFrom interval interval.value.tenExponent 18 0

/-- How a decimal is laid out: the powers of ten between which the point is
written in place rather than an exponent. -/
structure Layout where
  /-- Positional up to this many digits before the point. -/
  mostBefore : Int
  /-- Positional with fewer than this many zeros after the point. -/
  mostZeros : Int

/-- Sixteen digits before the point, or fewer than five zeros after it. -/
def Layout.json : Layout := ⟨16, 5⟩

def zeros (count : Nat) : List Char := List.replicate count '0'

/-- Writes a positive decimal, always with a point or with an exponent, which has
a sign. -/
def write (layout : Layout) (decimal : Scientific) : List Char :=
  let digits := Text.decimalDigits decimal.digits
  let point : Int := digits.length + decimal.exponent
  if 0 ≤ decimal.exponent ∧ point ≤ layout.mostBefore then
    digits ++ zeros decimal.exponent.toNat ++ ['.', '0']
  else if 0 < point ∧ point ≤ layout.mostBefore then
    digits.take point.toNat ++ '.' :: digits.drop point.toNat
  else if -layout.mostZeros < point ∧ point ≤ 0 then
    '0' :: '.' :: zeros (-point).toNat ++ digits
  else
    let mantissa :=
      match digits with
      | [] => []
      | [digit] => [digit]
      | digit :: rest => digit :: '.' :: rest
    let sign := if point - 1 < 0 then '-' else '+'
    mantissa ++ 'e' :: sign :: Text.decimalDigits (point - 1).natAbs

def isNegative (bits : UInt64) : Bool := bits.toNat ≥ Nat.pow 2 63

def isZero (bits : UInt64) : Bool := bits.toNat % Nat.pow 2 63 = 0

def isFinite (bits : UInt64) : Bool := bits.toNat / Nat.pow 2 52 % Nat.pow 2 11 ≠ 2047

/-- The text of a finite double. -/
def writeBits (layout : Layout) (bits : UInt64) : String :=
  let unsigned :=
    if isZero bits then ['0', '.', '0']
    else write layout (shortest (.ofBits bits))
  String.ofList (if isNegative bits then '-' :: unsigned else unsigned)

end EdgeGateway.Decimal
