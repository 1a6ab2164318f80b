import EdgeGateway.Document.Decode
import EdgeGateway.Json.Writer
import EdgeGateway.Route.Error
import EdgeGateway.Text.Blank

/-!
# Entries

Predicates and filters are stored as a list of entries, each a name with
arguments.  An entry is written as an object with the members `name` and `args`,
or shorter as `Name=first,second`.  The arguments of the short form get keys that
number them from zero, and can then be found by position as well as by key.  The
arguments of an entry are kept in the order of their keys.
-/

namespace EdgeGateway.Route

structure Entry where
  name : String
  arguments : List (String × String) := []
  deriving Repr, DecidableEq

namespace Entry

def positionalPrefix : String := "_genkey_"

def positionalKey (index : Nat) : String :=
  positionalPrefix ++ Text.decimal index

def insert (entry : Entry) (key value : String) : Entry :=
  { entry with arguments := Json.insertMember key value entry.arguments }

def argument? (entry : Entry) (key : String) : Option String :=
  (entry.arguments.find? fun (known, _) => known = key).map Prod.snd

/-- The number in a positional key. -/
def position? (key : String) : Option Nat :=
  (Text.stripPrefix? positionalPrefix key).bind fun digits =>
    match Text.readNatural Text.limit64 digits with
    | .ok index => some index
    | .error _ => none

/-- Inserts before the first larger index, so equal indices keep their order. -/
def insertByIndex (index : Nat) (value : String) :
    List (Nat × String) → List (Nat × String)
  | [] => [(index, value)]
  | (known, other) :: rest =>
      if index < known then (index, value) :: (known, other) :: rest
      else (known, other) :: insertByIndex index value rest

/-- The positional arguments in the order of their numbers. -/
def positional (entry : Entry) : List String :=
  let indexed := entry.arguments.filterMap fun (key, value) =>
    (position? key).map fun index => (index, value)
  (indexed.foldl (fun sorted (index, value) =>
    insertByIndex index value sorted) []).map Prod.snd

/-- A named argument, or else the one at a position; an empty one counts as
absent. -/
def find? (entry : Entry) (key : String) (index : Nat) : Option String :=
  match entry.argument? key <|> entry.argument? (positionalKey index) with
  | some "" => none
  | found => found

def required (kind : EntryKind) (entry : Entry) (key : String) (index : Nat) :
    Except Error String :=
  match entry.find? key index with
  | some value => .ok value
  | none => .error (.missingArgument kind entry.name key)

/-- All positional arguments, or else the parts between commas of the arguments
with the given keys; empty ones are dropped. -/
def list (entry : Entry) (keys : List String) : List String :=
  match entry.positional with
  | [] =>
      ((keys.filterMap entry.argument?).flatMap (Text.split ',')).filterMap
        fun part =>
          let trimmed := Text.trim part
          if trimmed = "" then none else some trimmed
  | values => values.filter (· ≠ "")

/-- Reads an entry whose arguments are all there, as texts. -/
def decode (document : Document) : Decoded Entry := do
  let fields ← document.asFields ["name", "args"]
  return ⟨← fields.required "name" Document.asText,
    ← fields.required "args" Document.asTextMap⟩

/-- Reads `Name=first,second`. -/
def ofShorthand (kind : EntryKind) (text : String) : Except Error Entry :=
  match Text.splitFirst? '=' text with
  | none =>
      .error (.invalidEntry kind s!"'{text}' is not of the form Name=args")
  | some (name, arguments) =>
      let name := Text.trim name
      if name = "" then
        .error (.invalidEntry kind s!"'{text}' has an empty name")
      else
        .ok <| ((Text.split ',' arguments).zipIdx).foldl
          (fun entry (argument, index) =>
            entry.insert (positionalKey index) (Text.trim argument))
          ⟨name, []⟩

def argumentText (kind : EntryKind) (key : String) : Json → Except Error String
  | .string text => .ok text
  | .number value => .ok value.text
  | .bool value => .ok (if value then "true" else "false")
  | other =>
      .error (.invalidEntry kind
        s!"argument '{key}' has unsupported value {other.write}")

def withArguments (kind : EntryKind) (entry : Entry) :
    List (String × Json) → Except Error Entry
  | [] => .ok entry
  | (key, value) :: rest => do
      let text ← argumentText kind key value
      withArguments kind (entry.insert key text) rest

/-- Reads an object with the members `name` and `args`. -/
def ofObject (kind : EntryKind) (members : List (String × Json)) :
    Except Error Entry := do
  let name ←
    match (Json.object members).member? "name" with
    | some (.string name) =>
        if Text.isBlankText name then
          throw (.invalidEntry kind "missing 'name'")
        else pure (Text.trim name)
    | _ => throw (.invalidEntry kind "missing 'name'")
  match (Json.object members).member? "args" with
  | none => return ⟨name, []⟩
  | some .null => return ⟨name, []⟩
  | some (.object arguments) => withArguments kind ⟨name, []⟩ arguments
  | some other =>
      throw (.invalidEntry kind s!"'args' must be an object, got {other.write}")

def ofJson (kind : EntryKind) : Json → Except Error Entry
  | .string text => ofShorthand kind text
  | .object members => ofObject kind members
  | other => .error (.invalidEntry kind s!"unsupported entry {other.write}")

/-- Reads a list of entries; null is an empty list. -/
def listOfJson (kind : EntryKind) : Json → Except Error (List Entry)
  | .null => .ok []
  | .array items => items.mapM (ofJson kind)
  | other => .error (.invalidEntry kind s!"expected a list, got {other.write}")

end Entry

end EdgeGateway.Route
