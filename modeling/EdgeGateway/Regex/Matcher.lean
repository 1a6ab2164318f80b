import EdgeGateway.Regex.Parser

/-!
# Matching

A state is a place in the text together with what the groups have captured on
the way to it.  `advance` carries a list of states through an expression.  The
list is ordered by preference, and of several states at one place only the most
preferred is kept: nothing that follows can tell them apart, except by what
they have captured.  The first state of the result is therefore the match that
a search which tries its choices in order finds first, while the number of
states never exceeds the number of places.

An unbounded repetition explores the places that it reaches once each.  A turn
that consumes nothing ends the repetition, so the exploration moves forward and
the number of characters left bounds its depth.
-/

namespace EdgeGateway.Regex

/-- A place in a text: how many characters lie before it, the nearest of them,
and those that follow. -/
structure Place where
  position : Nat
  previous : Option Char
  rest : List Char
  deriving Repr, DecidableEq

namespace Place

def start (text : List Char) : Place := ⟨0, none, text⟩

def next? (place : Place) : Option (Char × Place) :=
  match place.rest with
  | [] => none
  | char :: rest => some (char, ⟨place.position + 1, some char, rest⟩)

end Place

/-- Later captures of a group stand before earlier ones. -/
structure State where
  place : Place
  captures : List (Nat × List Char)
  deriving Repr, DecidableEq

namespace State

def position (state : State) : Nat := state.place.position

end State

/-- Keeps the first state at each position. -/
def distinctFrom : List Nat → List State → List State
  | _, [] => []
  | seen, state :: states =>
      if seen.contains state.position then distinctFrom seen states
      else state :: distinctFrom (state.position :: seen) states

def distinct (states : List State) : List State :=
  match states with
  | [] => []
  | [state] => [state]
  | states => distinctFrom [] states

def isWordChar (unicode : Bool) (char : Char) : Bool :=
  if char.toNat < 0x80 then Text.isAsciiAlphanumeric char || char = '_'
  else unicode && Unicode.wordMembers.containsChar char

namespace Assertion

def holds (condition : Assertion) (unicode : Bool) (place : Place) : Bool :=
  let before := place.previous
  let after := place.rest.head?
  let wordBefore := before.any (isWordChar unicode)
  let wordAfter := after.any (isWordChar unicode)
  match condition with
  | textStart => before.isNone
  | textEnd => after.isNone
  | lineStart => before.isNone || before = some '\n'
  | lineEnd => after.isNone || after = some '\n'
  | lineStartCrlf =>
      before.isNone || before = some '\n' ||
        (before = some '\r' && after ≠ some '\n')
  | lineEndCrlf =>
      after.isNone || after = some '\r' ||
        (after = some '\n' && before ≠ some '\r')
  | wordBoundary => wordBefore != wordAfter
  | notWordBoundary => wordBefore == wordAfter
  | wordStart => !wordBefore && wordAfter
  | wordEnd => wordBefore && !wordAfter
  | wordStartHalf => !wordBefore
  | wordEndHalf => !wordAfter

end Assertion

/-- The same step taken `count` times. -/
def exactly (step : List State → List State) : Nat → List State → List State
  | 0, states => states
  | count + 1, states =>
      if states.isEmpty then [] else exactly step count (step states)

/-- What an exploration has seen and, last first, what it has found. -/
structure Found where
  seen : List (Nat × Nat)
  states : List State

namespace Found

def nothing : Found := ⟨[], []⟩

def emit (found : Found) (state : State) : Found :=
  { found with states := state :: found.states }

def result (found : Found) : List State := distinct found.states.reverse

end Found

/-- At most `left` further turns from `state`. -/
def visitUpTo (step : List State → List State) (greedy : Bool) :
    Nat → Found → State → Found
  | left, found, state =>
      if found.seen.contains (left, state.position) then found
      else
        let found := { found with seen := (left, state.position) :: found.seen }
        match left with
        | 0 => found.emit state
        | left + 1 =>
            let explore (found : Found) :=
              (step [state]).foldl (visitUpTo step greedy left) found
            if greedy then (explore found).emit state
            else explore (found.emit state)

/-- Arrives at `state` after a turn of a repetition that began at `start`. -/
def visitLoop (step : List State → List State) (greedy : Bool) (start : Nat) :
    Nat → Found → State → Found
  | 0, found, _ => found
  | fuel + 1, found, state =>
      if found.seen.contains (0, state.position) then found
      else
        let found := { found with seen := (0, state.position) :: found.seen }
        let explore (found : Found) :=
          if state.position = start then found
          else (step [state]).foldl (visitLoop step greedy start fuel) found
        if greedy then (explore found).emit state
        else explore (found.emit state)

/-- One turn or more from `state`. -/
def oneOrMore (step : List State → List State) (greedy : Bool)
    (state : State) : List State :=
  ((step [state]).foldl
    (visitLoop step greedy state.position (state.place.rest.length + 2))
    Found.nothing).result

def turns (step : List State → List State) (least : Nat) (most : Option Nat)
    (greedy : Bool) (states : List State) : List State :=
  match most with
  | some bound =>
      if bound ≤ least then exactly step least states
      else
        distinct <| (exactly step least states).flatMap fun state =>
          (visitUpTo step greedy (bound - least) Found.nothing state).result
  | none =>
      if least = 0 then
        distinct <| states.flatMap fun state =>
          if greedy then oneOrMore step greedy state ++ [state]
          else state :: oneOrMore step greedy state
      else
        distinct <| (exactly step (least - 1) states).flatMap
          (oneOrMore step greedy)

/-- The text between two places of one text. -/
def between (first final : Place) : List Char :=
  first.rest.take (final.position - first.position)

def advance : Expr → List State → List State
  | .empty, states => states
  | .oneOf members, states =>
      states.filterMap fun state =>
        state.place.next?.bind fun (char, place) =>
          if members.containsChar char then some { state with place := place }
          else none
  | .assertion condition unicode, states =>
      states.filter fun state => condition.holds unicode state.place
  | .seq first second, states => advance second (advance first states)
  | .alt first second, states =>
      distinct <| states.flatMap fun state =>
        advance first [state] ++ advance second [state]
  | .iterate inner least most greedy, states =>
      turns (advance inner) least most greedy states
  | .group index inner, states =>
      distinct <| states.flatMap fun state =>
        (advance inner [state]).map fun final =>
          { final with
            captures :=
              index.toList.map (·, between state.place final.place) ++
                final.captures }

/-- The text before a match, the match, the text after it and the captures. -/
structure Match where
  before : List Char
  matched : List Char
  after : List Char
  captures : List (Nat × List Char)
  deriving Repr, DecidableEq

namespace Match

/-- What a group captured; group 0 is the whole match. -/
def group? (found : Match) (index : Nat) : Option (List Char) :=
  if index = 0 then some found.matched
  else (found.captures.find? fun (known, _) => known = index).map Prod.snd

end Match

/-- The most preferred match that begins at a place.  `skipped` holds the
characters before it, nearest first. -/
def matchAt? (expr : Expr) (position : Nat) (skipped rest : List Char) :
    Option Match :=
  let place : Place := ⟨position, skipped.head?, rest⟩
  (advance expr [⟨place, []⟩]).head?.map fun final =>
    ⟨skipped.reverse, between place final.place, final.place.rest,
      final.captures⟩

/-- The match at the first place that has one. -/
def searchFrom (expr : Expr) (position : Nat) (skipped : List Char) :
    List Char → Option Match
  | [] => matchAt? expr position skipped []
  | char :: rest =>
      match matchAt? expr position skipped (char :: rest) with
      | some found => some found
      | none => searchFrom expr (position + 1) (char :: skipped) rest

namespace Pattern

def search? (pattern : Pattern) (text : String) : Option Match :=
  searchFrom pattern.expr 0 [] text.toList

def isMatch (pattern : Pattern) (text : String) : Bool :=
  (pattern.search? text).isSome

/-- The captures of the named groups that took part in a match. -/
def namedCaptures? (pattern : Pattern) (text : String) :
    Option (List (String × String)) :=
  (pattern.search? text).map fun found =>
    pattern.groupNames.filterMap fun (name, index) =>
      (found.group? index).map fun captured => (name, String.ofList captured)

end Pattern

end EdgeGateway.Regex
