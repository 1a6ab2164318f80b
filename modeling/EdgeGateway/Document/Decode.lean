import EdgeGateway.Document.Scalar

/-!
# Giving documents a type

A record is read from a mapping by the names of its fields, or from a sequence
by their order.  Unknown names are ignored, a name that occurs twice is refused,
and so are more items than fields.  A field with a default may be absent; a
field that is present has to fit.
-/

namespace EdgeGateway

inductive DecodeError where
  | unexpected (expected : String)
  | missingField (name : String)
  | duplicateField (name : String)
  | tooManyItems
  | outOfRange
  | invalidText (expected : String)
  deriving Repr, DecidableEq

namespace DecodeError

def message : DecodeError → String
  | unexpected expected => s!"invalid type, expected {expected}"
  | missingField name => s!"missing field {name}"
  | duplicateField name => s!"duplicate field {name}"
  | tooManyItems => "invalid length"
  | outOfRange => "number out of range"
  | invalidText expected => s!"invalid value, expected {expected}"

end DecodeError

abbrev Decoded := Except DecodeError

namespace Document

def asText : Document → Decoded String
  | text value => .ok value
  | plain value => .ok value
  | _ => .error (.unexpected "a string")

def asBool : Document → Decoded Bool
  | bool value => .ok value
  | plain value =>
      match plainBool? value with
      | some value => .ok value
      | none => .error (.unexpected "a boolean")
  | _ => .error (.unexpected "a boolean")

def asInt : Document → Decoded Int
  | number (.whole value) => .ok value
  | plain value =>
      match plainInt? value with
      | some value => .ok value
      | none => .error (.unexpected "an integer")
  | _ => .error (.unexpected "an integer")

/-- A whole number from zero to a limit. -/
def asNatural (limit : Nat) (document : Document) : Decoded Nat := do
  let value ← document.asInt
  if 0 ≤ value ∧ value ≤ limit then return value.toNat else throw .outOfRange

/-- A whole number that fits 64 bits with a sign. -/
def asInt64 (document : Document) : Decoded Int := do
  let value ← document.asInt
  if -(Text.limitSigned + 1 : Int) ≤ value ∧ value ≤ Text.limitSigned then return value
  else throw .outOfRange

def isNull : Document → Bool
  | null => true
  | missing => true
  | plain value => isPlainNull value
  | _ => false

def asOption (decode : Document → Decoded α) (document : Document) :
    Decoded (Option α) :=
  if document.isNull then .ok none else (decode document).map some

def asList (decode : Document → Decoded α) : Document → Decoded (List α)
  | sequence items => items.mapM decode
  | missing => .ok []
  | plain "" => .ok []
  | _ => .error (.unexpected "a sequence")

def asTextMember : String × Document → Decoded (String × String)
  | (name, value) => value.asText.map (name, ·)

/-- A dictionary of texts, in the order of its keys. -/
def asTextMap : Document → Decoded (List (String × String))
  | mapping members => (members.mapM asTextMember).map Json.sortPairs
  | _ => .error (.unexpected "a map")

/-- One of several names.  A mapping of the name to null stands for the name. -/
def asVariant (expected : String) (variants : List (String × α)) :
    Document → Decoded α
  | text value => pick value
  | plain value => pick value
  | mapping [(name, null)] => pick name
  | _ => .error (.unexpected expected)
where
  pick (name : String) : Decoded α :=
    match variants.find? fun (known, _) => known = name with
    | some (_, value) => .ok value
    | none => .error (.invalidText expected)

/-- The fields of a record that are present, by name. -/
structure Fields where
  present : List (String × Document)

namespace Fields

def find? (fields : Fields) (name : String) : Option Document :=
  (fields.present.find? fun (known, _) => known = name).map Prod.snd

def required (fields : Fields) (name : String)
    (decode : Document → Decoded α) : Decoded α :=
  match fields.find? name with
  | some value => decode value
  | none => .error (.missingField name)

def withDefault (fields : Fields) (name : String) (fallback : α)
    (decode : Document → Decoded α) : Decoded α :=
  match fields.find? name with
  | some value => decode value
  | none => .ok fallback

def optional (fields : Fields) (name : String)
    (decode : Document → Decoded α) : Decoded (Option α) :=
  fields.withDefault name none (asOption decode)

end Fields

/-- The first name that occurs twice. -/
def repeated? : List String → Option String
  | [] => none
  | name :: names => if names.contains name then some name else repeated? names

/-- Sees a document as a record with fields of the given names. -/
def asFields (names : List String) : Document → Decoded Fields
  | mapping members =>
      let known := members.filter fun (name, _) => names.contains name
      match repeated? (known.map Prod.fst) with
      | some name => .error (.duplicateField name)
      | none => .ok ⟨known⟩
  | sequence items =>
      if items.length > names.length then .error .tooManyItems
      else .ok ⟨names.zip items⟩
  | missing => .ok ⟨[]⟩
  | plain "" => .ok ⟨[]⟩
  | _ => .error (.unexpected "a record")

end Document

end EdgeGateway
