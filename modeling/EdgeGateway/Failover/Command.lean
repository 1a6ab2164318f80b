import EdgeGateway.Json.Bytes
import EdgeGateway.Text.Blank

/-!
# Failover commands

An operator's command is an object with a region and a reason, or the list of
both; each may be null, and an object may leave them out.  A body is read from
its front, so of two faults the first one counts: that it is no JSON, or that it
is JSON of another shape.  The values of other members are read over, and what
follows the command is not looked at.
-/

namespace EdgeGateway.Failover

structure Command where
  region : Option String := none
  reason : Option String := none
  deriving Repr, DecidableEq

inductive CommandFault where
  | notJson
  | wrongShape
  deriving Repr, DecidableEq

namespace Command

/-- A text whose opening quote has been consumed. -/
def readText (text : List Char) : Except CommandFault (String × List Char) :=
  match Json.readByteString text with
  | .ok found => .ok found
  | .error _ => .error .notJson

/-- A value that is no list and no object. -/
def readScalar (text : List Char) : Except CommandFault (Json × List Char) :=
  match text with
  | '"' :: rest => do
      let (value, rest) ← readText rest
      return (.string value, rest)
  | _ =>
      match Json.readValue 1 0 text with
      | .ok found => .ok found
      | .error _ => .error .notJson

/-- A text or null. -/
def readOptional (text : List Char) :
    Except CommandFault (Option String × List Char) :=
  match Json.skipSpace text with
  | '[' :: _ => .error .wrongShape
  | '{' :: _ => .error .wrongShape
  | text => do
      match ← readScalar text with
      | (.null, rest) => return (none, rest)
      | (.string value, rest) => return (some value, rest)
      | _ => throw .wrongShape

/-- Where an object or a list goes on after one of its parts. -/
inductive Continuation where
  | closed (rest : List Char)
  | next (rest : List Char)

def continuation (close : Char) (text : List Char) :
    Except CommandFault Continuation :=
  match Json.skipSpace text with
  | [] => .error .notJson
  | char :: rest =>
      if char = close then .ok (.closed rest)
      else if char = ',' then .ok (.next rest)
      else .error .notJson

/-- The list of a region and a reason, after its bracket. -/
def readList (text : List Char) : Except CommandFault Command := do
  if (Json.skipSpace text).head? = some ']' then throw .wrongShape
  let (region, text) ← readOptional text
  match ← continuation ']' text with
  | .closed _ => throw .wrongShape
  | .next text =>
      if (Json.skipSpace text).head? = some ']' then throw .notJson
      let (reason, text) ← readOptional text
      match ← continuation ']' text with
      | .closed _ => return ⟨region, reason⟩
      | .next _ => throw .notJson

/-- The parts read so far; a part that was null is there. -/
structure Parts where
  region : Option (Option String) := none
  reason : Option (Option String) := none

def afterColon (text : List Char) : Except CommandFault (List Char) :=
  match Json.skipSpace text with
  | ':' :: rest => .ok rest
  | _ => .error .notJson

/-- One member of an object; a member of another name is read over. -/
def readMember (parts : Parts) (name : String) (text : List Char) :
    Except CommandFault (Parts × List Char) := do
  if name = "region" then
    if parts.region.isSome then throw .wrongShape
    let (value, rest) ← readOptional (← afterColon text)
    return ({ parts with region := some value }, rest)
  else if name = "reason" then
    if parts.reason.isSome then throw .wrongShape
    let (value, rest) ← readOptional (← afterColon text)
    return ({ parts with reason := some value }, rest)
  else
    match Json.skipValue (← afterColon text) with
    | some rest => return (parts, rest)
    | none => throw .notJson

def readMembers : Nat → Parts → List Char → Except CommandFault Parts
  | 0, _, _ => .error .notJson
  | fuel + 1, parts, text => do
      match Json.skipSpace text with
      | '"' :: rest =>
          let (name, rest) ← readText rest
          let (parts, rest) ← readMember parts name rest
          match ← continuation '}' rest with
          | .closed _ => return parts
          | .next rest => readMembers fuel parts rest
      | _ => throw .notJson

def readObject (text : List Char) : Except CommandFault Command := do
  if (Json.skipSpace text).head? = some '}' then return {}
  let parts ← readMembers (text.length + 1) {} text
  return ⟨parts.region.getD none, parts.reason.getD none⟩

def read (body : ByteArray) : Except CommandFault Command :=
  match Json.skipSpace (Json.byteChars body) with
  | '[' :: rest => readList rest
  | '{' :: rest => readObject rest
  | rest => do
      let _ ← readScalar rest
      throw .wrongShape

/-- The reason that is reported for a command. -/
def reasonText (command : Command) : String :=
  match command.reason with
  | some reason => if Text.isBlankText reason then "operator request" else reason
  | none => "operator request"

end Command

end EdgeGateway.Failover
