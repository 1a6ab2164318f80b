import EdgeGateway.Json.Basic

/-!
# Documents

What a configuration, a seed file or a stored row holds before it is given a
type.  A `plain` scalar is one whose text was written without quotes in a
format where the reader decides what it stands for; every other scalar comes
with its kind.  Mappings keep the order and the repetitions of their source.
-/

namespace EdgeGateway

inductive Document where
  /-- Nothing at all, as opposed to a null that was written. -/
  | missing
  | null
  | bool (value : Bool)
  | number (value : JsonNumber)
  | text (value : String)
  | plain (value : String)
  | sequence (items : List Document)
  | mapping (members : List (String × Document))
  deriving Repr

namespace Document

mutual

def ofJson : Json → Document
  | .null => null
  | .bool value => bool value
  | .number value => number value
  | .string value => text value
  | .array items => sequence (ofItems items)
  | .object members => mapping (ofMembers members)

def ofItems : List Json → List Document
  | [] => []
  | item :: items => ofJson item :: ofItems items

def ofMembers : List (String × Json) → List (String × Document)
  | [] => []
  | (name, value) :: members => (name, ofJson value) :: ofMembers members

end

end Document

end EdgeGateway
