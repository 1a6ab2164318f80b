import EdgeGateway.Explanation
import EdgeGateway.Json.Writer
import EdgeGateway.Text.Pieces
import EdgeGateway.Unicode.Property

/-!
# Log records

A record has a level, a target that says which part of the gateway speaks, a
message and named values.  A filter lets a record through if its level is among
those that the longest matching target of the filter allows.
-/

namespace EdgeGateway.Observe

inductive Level where
  | error
  | warn
  | info
  | debug
  | trace
  deriving Repr, DecidableEq

namespace Level

def name : Level → String
  | error => "ERROR"
  | warn => "WARN"
  | info => "INFO"
  | debug => "DEBUG"
  | trace => "TRACE"

/-- How much a level says; a filter allows all levels up to a verbosity. -/
def verbosity : Level → Nat
  | error => 1
  | warn => 2
  | info => 3
  | debug => 4
  | trace => 5

end Level

inductive LogValue where
  | text (value : Explanation)
  | count (value : Nat)
  deriving Repr, DecidableEq

structure LogRecord where
  level : Level
  target : String
  message : Explanation
  values : List (String × LogValue) := []
  deriving Repr, DecidableEq

def LogValue.hideReason (mark : String) : LogValue → LogValue
  | text value => text (value.hideReason mark)
  | count value => count value

namespace LogRecord

/-- The same record with a mark in place of every foreign reason. -/
def hideReasons (mark : String) (record : LogRecord) : LogRecord :=
  { record with
    message := record.message.hideReason mark
    values := record.values.map fun (name, value) => (name, value.hideReason mark) }

def valueText : LogValue → String
  | .text value => value.full
  | .count value => Text.decimal value

def valueJson : LogValue → Json
  | .text value => .string value.full
  | .count value => .ofNat value

/-- The record for programs to read. -/
def toJson (record : LogRecord) : Json :=
  .object
    [("level", .string record.level.name),
     ("fields", .object
       (("message", .string record.message.full) ::
         record.values.map fun (name, value) => (name, valueJson value))),
     ("target", .string record.target)]

/-- The record for people to read, written by some thread. -/
def line (thread : String) (record : LogRecord) : String :=
  Text.join " " <|
    [record.level.name, thread, record.target ++ ":", record.message.full] ++
      record.values.map fun (name, value) => name ++ "=" ++ valueText value

end LogRecord

/-- What a filter allows to the targets that start with a text. -/
structure LogDirective where
  target : String
  verbosity : Nat
  deriving Repr, DecidableEq

/-- A later directive for a target takes the place of an earlier one. -/
structure LogFilter where
  directives : List LogDirective
  deriving Repr, DecidableEq

namespace LogFilter

/-- The directive that decides about a target: the one with the longest text,
and the last of those with the same. -/
def directive? (filter : LogFilter) (target : String) : Option LogDirective :=
  (filter.directives.filter fun directive =>
    Text.startsWith target directive.target).foldl
      (fun best directive =>
        match best with
        | none => some directive
        | some known =>
            if directive.target.length < known.target.length then some known
            else some directive) none

def allows (filter : LogFilter) (record : LogRecord) : Bool :=
  match filter.directive? record.target with
  | some directive => record.level.verbosity ≤ directive.verbosity
  | none => false

/-! ## Reading a filter -/

def verbosity? (text : String) : Option Nat :=
  match Text.lowerAscii text with
  | "off" => some 0
  | "error" => some 1
  | "warn" => some 2
  | "info" => some 3
  | "debug" => some 4
  | "trace" => some 5
  | "0" => some 0
  | "1" => some 1
  | "2" => some 2
  | "3" => some 3
  | "4" => some 4
  | "5" => some 5
  | _ => none

def isTargetChar (char : Char) : Bool :=
  Unicode.wordMembers.containsChar char || char = ':' || char = '-'

/-- What one part of a filter says.  A part that names a span allows nothing
outside of that span. -/
inductive Part where
  | directive (directive : LogDirective)
  | span

/-- The text after a span in brackets. -/
def afterSpan? : List Char → Option (List Char)
  | '[' :: rest =>
      match rest.dropWhile (· ≠ ']') with
      | _ :: rest => some rest
      | [] => none
  | _ => none

/-- A target and a span in either order, and what follows them. -/
def readTarget? (text : List Char) : Option (String × Bool × List Char) :=
  match afterSpan? text with
  | some rest =>
      let target := rest.takeWhile isTargetChar
      match target, afterSpan? rest with
      | [], some rest => some ("", true, rest)
      | _, _ => some (String.ofList target, true, rest.drop target.length)
  | none =>
      let target := text.takeWhile isTargetChar
      let rest := text.drop target.length
      if target = [] then none
      else
        match afterSpan? rest with
        | some rest => some (String.ofList target, true, rest)
        | none => some (String.ofList target, false, rest)

def readPart? (text : String) : Option Part :=
  match verbosity? text with
  | some verbosity => some (.directive ⟨"", verbosity⟩)
  | none => do
      let (target, hasSpan, rest) ← readTarget? text.toList
      let verbosity ←
        match rest with
        | [] => some 5
        | ['='] => some 5
        | '=' :: level => verbosity? (String.ofList level)
        | _ => none
      return if hasSpan then .span else .directive ⟨target, verbosity⟩

/-- A list of parts between commas; without any part only errors are let
through. -/
def read? (text : String) : Option LogFilter := do
  let parts ← ((Text.split ',' text).filter (· ≠ "")).mapM readPart?
  if parts.isEmpty then return ⟨[⟨"", 1⟩]⟩
  return ⟨parts.filterMap fun part =>
    match part with
    | .directive directive => some directive
    | .span => none⟩

end LogFilter

end EdgeGateway.Observe
