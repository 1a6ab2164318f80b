import EdgeGateway.Text.Ascii
import EdgeGateway.Text.Utf8

/-!
# Header fields

Fields are kept in the order in which they came, under lower-case names.  A name
is a token of limited length and a value is free of control characters; only a
value made of visible ASCII characters, spaces and tabs can be read as text.
`set` puts one field in the place of all fields of its name and leaves the
others as they are; a name or value that is not legal leaves everything as it
was.
-/

namespace EdgeGateway.Http

def isTokenChar (char : Char) : Bool :=
  Text.isAsciiAlphanumeric char || "!#$%&'*+-.^_`|~".toList.contains char

/-- Longest legal header name, in bytes. -/
def nameLimit : Nat := 65535

def isHeaderName (name : String) : Bool :=
  !name.toList.isEmpty && name.toList.all isTokenChar &&
    name.toList.length ≤ nameLimit

def isHeaderValue (value : String) : Bool :=
  value.toList.all fun char =>
    char = '\t' || (char.toNat ≥ 0x20 && char.toNat ≠ 0x7F)

def isVisible (char : Char) : Bool :=
  char = '\t' || (0x20 ≤ char.toNat && char.toNat < 0x7F)

/-- The value as text, unless it holds bytes beyond ASCII. -/
def readableValue? (value : String) : Option String :=
  if value.toList.all isVisible then some value else none

structure Headers where
  fields : List (String × String) := []
  deriving Repr, DecidableEq

namespace Headers

def empty : Headers := ⟨[]⟩

/-- The values of a name in order; names are compared without case. -/
def values (headers : Headers) (name : String) : List String :=
  headers.fields.filterMap fun (known, value) =>
    if known = Text.lowerAscii name then some value else none

def first? (headers : Headers) (name : String) : Option String :=
  (headers.values name).head?

/-- The first value of a name, if it can be read as text. -/
def text? (headers : Headers) (name : String) : Option String :=
  (headers.first? name).bind readableValue?

def contains (headers : Headers) (name : String) : Bool :=
  (headers.first? name).isSome

def append (headers : Headers) (name value : String) : Headers :=
  ⟨headers.fields ++ [(Text.lowerAscii name, value)]⟩

def erase (headers : Headers) (name : String) : Headers :=
  ⟨headers.fields.filter fun (known, _) => known ≠ Text.lowerAscii name⟩

def set (headers : Headers) (name value : String) : Headers :=
  if isHeaderName name && isHeaderValue value then
    (headers.erase name).append name value
  else headers

def ofList (fields : List (String × String)) : Headers :=
  fields.foldl (fun headers (name, value) => headers.append name value) empty

/-- Puts a field before the first one with a greater name. -/
def insertField (field : String × String) :
    List (String × String) → List (String × String)
  | [] => [field]
  | known :: fields =>
      if field.1 < known.1 then field :: known :: fields
      else known :: insertField field fields

/-- The fields by name; fields of one name keep their order. -/
def sortedFields (headers : Headers) : List (String × String) :=
  headers.fields.foldl (fun sorted field => insertField field sorted) []

end Headers

end EdgeGateway.Http
