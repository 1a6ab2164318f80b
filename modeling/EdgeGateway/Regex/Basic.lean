import EdgeGateway.Unicode.Property

/-!
# Regular expressions

An expression describes pieces of text.  There are no references back to what
a group has matched and no look-around, so what an expression can match from a
place on does not depend on what was matched before it; only the assertions
look at the neighbouring characters.  The weight of an expression estimates the
room that a compiled automaton for it would take, and its nesting how deep its
parts lie in each other; a pattern above the limits is refused.
-/

namespace EdgeGateway.Regex

open Unicode (CodeRanges)

/-- Conditions on a place in the text that consume nothing. -/
inductive Assertion where
  | textStart
  | textEnd
  | lineStart
  | lineEnd
  | lineStartCrlf
  | lineEndCrlf
  | wordBoundary
  | notWordBoundary
  | wordStart
  | wordEnd
  | wordStartHalf
  | wordEndHalf
  deriving Repr, DecidableEq

inductive Expr where
  | empty
  | oneOf (members : CodeRanges)
  /-- `unicode` says which characters the word assertions take for words. -/
  | assertion (condition : Assertion) (unicode : Bool)
  | seq (first second : Expr)
  | alt (first second : Expr)
  | iterate (inner : Expr) (least : Nat) (most : Option Nat) (greedy : Bool)
  /-- A group captures what it matches if it has a number. -/
  | group (index : Option Nat) (inner : Expr)
  deriving Repr

inductive SyntaxError where
  | unclosedGroup
  | unopenedGroup
  | emptyGroupName
  | invalidGroupName
  | duplicateGroupName (name : String)
  | unclosedClass
  | invalidClassRange
  | invalidClassItem
  | nothingToRepeat
  | unclosedCount
  | emptyCount
  | invalidCount
  | unfinishedEscape
  | unknownEscape
  | invalidCodePoint
  | unknownProperty
  | invalidFlag
  | lookAround
  | notText
  | tooDeep
  | tooLarge
  deriving Repr, DecidableEq

namespace SyntaxError

def message : SyntaxError → String
  | unclosedGroup => "unclosed group"
  | unopenedGroup => "unopened group"
  | emptyGroupName => "empty capture group name"
  | invalidGroupName => "invalid capture group name"
  | duplicateGroupName name => s!"duplicate capture group name '{name}'"
  | unclosedClass => "unclosed character class"
  | invalidClassRange => "invalid character class range"
  | invalidClassItem => "invalid item in a character class"
  | nothingToRepeat => "repetition operator missing expression"
  | unclosedCount => "unclosed counted repetition"
  | emptyCount => "repetition quantifier expects a valid decimal"
  | invalidCount => "invalid repetition count range"
  | unfinishedEscape => "incomplete escape sequence"
  | unknownEscape => "unrecognized escape sequence"
  | invalidCodePoint => "invalid hexadecimal code point"
  | unknownProperty => "Unicode property not found"
  | invalidFlag => "invalid flags"
  | lookAround => "look-around is not supported"
  | notText => "pattern can match invalid text"
  | tooDeep => "pattern is nested too deeply"
  | tooLarge => "compiled pattern exceeds the size limit"

end SyntaxError

namespace Expr

def char (char : Char) : Expr :=
  oneOf [(char.toNat, char.toNat)]

/-- Exactly these characters, one after the other. -/
def literal : List Char → Expr
  | [] => empty
  | [last] => char last
  | first :: rest => seq (char first) (literal rest)

def sequence : List Expr → Expr
  | [] => empty
  | [last] => last
  | first :: rest => seq first (sequence rest)

def choice : List Expr → Expr
  | [] => empty
  | [last] => last
  | first :: rest => alt first (choice rest)

def star (inner : Expr) : Expr := iterate inner 0 none true

def plus (inner : Expr) : Expr := iterate inner 1 none true

def optional (inner : Expr) : Expr := iterate inner 0 (some 1) true

/-- Any character but a line feed. -/
def anyButNewline : Expr :=
  oneOf (CodeRanges.complement [(0x0A, 0x0A)])

def anyBut (char : Char) : Expr :=
  oneOf (CodeRanges.complement [(char.toNat, char.toNat)])

/-- Matches `char` in either case. -/
def charIgnoringCase (char : Char) : Expr :=
  oneOf (Unicode.closeUnderFolding [(char.toNat, char.toNat)])

def startsText : Expr := assertion .textStart true

def endsText : Expr := assertion .textEnd true

/-- Bytes that one state of the automaton takes. -/
def stateWeight : Nat := 32

/-- A set is one state when it lies in ASCII; beyond it, characters take
several bytes and a set about one transition per range and byte. -/
def setWeight (members : CodeRanges) : Nat :=
  if members.all fun (_, final) => final < 0x80 then
    stateWeight + (if members.length ≤ 1 then 0 else 8 * members.length)
  else
    match members with
    | [(first, final)] =>
        if first = final then
          stateWeight * (if first < 0x800 then 2 else if first < 0x10000 then 3 else 4)
        else stateWeight * 8
    | _ => stateWeight * 8 + 24 * members.length

def weight : Expr → Nat
  | empty => stateWeight
  | oneOf members => setWeight members
  | assertion _ _ => stateWeight
  | seq first second => first.weight + second.weight
  | alt first second => stateWeight + first.weight + second.weight
  | iterate inner least most _ =>
      match most with
      | none => max 1 least * inner.weight + 2 * stateWeight
      | some bound =>
          least * inner.weight +
            (bound - least) * (inner.weight + stateWeight + 16) + stateWeight
  | group none inner => inner.weight
  | group (some _) inner => inner.weight + 2 * stateWeight

/-- The room that a compiled pattern may take. -/
def weightLimit : Nat := 10 * Nat.pow 2 20

def isSeq : Expr → Bool
  | seq _ _ => true
  | _ => false

def isAlt : Expr → Bool
  | alt _ _ => true
  | _ => false

/-- How deep the parts of an expression are nested.  A sequence is one level, however
long it is, and so are alternatives; every group and repetition is one more. -/
def nesting : Expr → Nat
  | empty => 0
  | oneOf _ => 0
  | assertion _ _ => 0
  | seq first second =>
      max (first.nesting + 1) (second.nesting + if second.isSeq then 0 else 1)
  | alt first second =>
      max (first.nesting + 1) (second.nesting + if second.isAlt then 0 else 1)
  | iterate inner _ _ _ => inner.nesting + 1
  | group _ inner => inner.nesting + 1

/-- How deep a pattern may be nested. -/
def nestingLimit : Nat := 250

end Expr

/-- A compiled pattern: the text it was written as, what it means, and the
number of each named group in the order of the groups. -/
structure Pattern where
  source : String
  expr : Expr
  groupNames : List (String × Nat)
  deriving Repr

end EdgeGateway.Regex
