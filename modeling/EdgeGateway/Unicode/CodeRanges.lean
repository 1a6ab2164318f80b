import EdgeGateway.Text.Pieces

/-!
# Sets of code points

A set of code points is a list of closed ranges.  The operations below keep the
ranges sorted, disjoint and separated by at least one missing code point, so
that two sets with the same members are the same list.  The tables of Unicode
properties are written as text and read here.
-/

namespace EdgeGateway.Unicode

abbrev CodeRanges := List (Nat × Nat)

namespace CodeRanges

def contains (ranges : CodeRanges) (code : Nat) : Bool :=
  ranges.any fun (first, last) => first ≤ code && code ≤ last

def containsChar (ranges : CodeRanges) (char : Char) : Bool :=
  ranges.contains char.toNat

/-- Joins sorted ranges that overlap or touch. -/
def joinTouching : CodeRanges → CodeRanges
  | [] => []
  | (first, last) :: rest =>
      match joinTouching rest with
      | [] => [(first, last)]
      | (nextFirst, nextLast) :: others =>
          if nextFirst ≤ last + 1 then (first, max last nextLast) :: others
          else (first, last) :: (nextFirst, nextLast) :: others

def normalize (ranges : CodeRanges) : CodeRanges :=
  joinTouching
    ((ranges.filter fun (first, last) => first ≤ last).mergeSort
      fun left right => left.1 < right.1 || (left.1 == right.1 && left.2 ≥ right.2))

def union (left right : CodeRanges) : CodeRanges :=
  normalize (left ++ right)

def lastCode : Nat := 0x10FFFF

/-- The gaps of sorted disjoint ranges from `start` on. -/
def gaps (start : Nat) : CodeRanges → CodeRanges
  | [] => if start ≤ lastCode then [(start, lastCode)] else []
  | (first, final) :: rest =>
      if start < first then (start, first - 1) :: gaps (final + 1) rest
      else gaps (final + 1) rest

/-- All code points outside the set; surrogates count as code points here and
are never met in text. -/
def complement (ranges : CodeRanges) : CodeRanges :=
  gaps 0 (normalize ranges)

def inter (left right : CodeRanges) : CodeRanges :=
  normalize <| left.flatMap fun (first, final) =>
    right.filterMap fun (otherFirst, otherFinal) =>
      let low := max first otherFirst
      let high := min final otherFinal
      if low ≤ high then some (low, high) else none

def diff (left right : CodeRanges) : CodeRanges :=
  inter (normalize left) (complement right)

def symmDiff (left right : CodeRanges) : CodeRanges :=
  union (diff left right) (diff right left)

end CodeRanges

def hexDigit? (char : Char) : Option Nat :=
  if '0' ≤ char ∧ char ≤ '9' then some (char.toNat - 48)
  else if 'a' ≤ char ∧ char ≤ 'f' then some (char.toNat - 87)
  else if 'A' ≤ char ∧ char ≤ 'F' then some (char.toNat - 55)
  else none

/-- The value of hexadecimal digits; the empty list has none. -/
def hexValue? (digits : List Char) : Option Nat :=
  if digits = [] then none
  else
    digits.foldl (fun value char =>
      value.bind fun total => (hexDigit? char).map (total * 16 + ·)) (some 0)

/-- Reads `first-last`, or one code point that stands for itself. -/
def readRange? (text : List Char) : Option (Nat × Nat) :=
  match Text.splitAtFirst? '-' text with
  | some (first, final) => do
      let low ← hexValue? first
      let high ← hexValue? final
      return (low, high)
  | none => (hexValue? text).map fun code => (code, code)

/-- The words of a table, which stands in several lines. -/
def tableWords (table : String) : List (List Char) :=
  (Text.splitAtEvery ' ' (table.toList.map fun char =>
    if char = '\n' then ' ' else char)).filter (· ≠ [])

def readRanges (table : String) : CodeRanges :=
  (tableWords table).filterMap readRange?

/-- Every `step`-th code point from `first` to `final` has the image at the
same distance from `start`. -/
structure CaseRun where
  first : Nat
  final : Nat
  step : Nat
  start : Nat
  deriving Repr

namespace CaseRun

def image? (run : CaseRun) (code : Nat) : Option Nat :=
  if run.first ≤ code ∧ code ≤ run.final ∧ (code - run.first) % run.step = 0 then
    some (run.start + (code - run.first))
  else none

def members (run : CaseRun) : List (Nat × Nat) :=
  (List.range ((run.final - run.first) / run.step + 1)).map fun index =>
    (run.first + index * run.step, run.start + index * run.step)

end CaseRun

def readRun? (text : List Char) : Option CaseRun := do
  let (source, start) ← Text.splitAtFirst? '>' text
  let (range, step) ← Text.splitAtFirst? '/' source
  let (first, final) ← readRange? range
  return ⟨first, final, ← hexValue? step, ← hexValue? start⟩

def readRuns (table : String) : List CaseRun :=
  (tableWords table).filterMap readRun?

end EdgeGateway.Unicode
