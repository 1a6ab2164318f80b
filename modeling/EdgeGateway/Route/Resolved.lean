import EdgeGateway.Route.Filter
import EdgeGateway.Route.Predicate
import EdgeGateway.Route.Target

/-!
# Resolved routes

A definition with everything compiled and checked: what the route applies to,
where it sends a request and how it edits it.  The attributes are the scalar
values of the stored metadata under their dotted paths.
-/

namespace EdgeGateway.Route

namespace Attributes

/-- The path of a child; the path of the whole document is empty. -/
def childPath (parent name : String) : String :=
  if parent = "" then name else parent ++ "." ++ name

mutual

/-- Puts the scalars of a value into the map, each under its path.  A later
scalar takes the place of an earlier one with the same path. -/
def collect (path : String) (value : Json) (found : List (String × String)) :
    List (String × String) :=
  match value with
  | .null => found
  | .object members => collectMembers path members found
  | .array items => collectItems path 0 items found
  | .string text => Json.insertMember path text found
  | .number number => Json.insertMember path number.text found
  | .bool flag =>
      Json.insertMember path (if flag then "true" else "false") found

def collectMembers (path : String) (members : List (String × Json))
    (found : List (String × String)) : List (String × String) :=
  match members with
  | [] => found
  | (name, value) :: rest =>
      collectMembers path rest (collect (childPath path name) value found)

def collectItems (path : String) (index : Nat) (items : List Json)
    (found : List (String × String)) : List (String × String) :=
  match items with
  | [] => found
  | item :: rest =>
      collectItems path (index + 1) rest
        (collect (childPath path (Text.decimal index)) item found)

end

def ofMetadata (metadata : Option Json) : List (String × String) :=
  match metadata with
  | some value => collect "" value []
  | none => []

end Attributes

structure Resolved where
  definition : Definition
  target : Target
  predicates : List Predicate
  filters : List Filter
  attributes : List (String × String)
  deriving Repr

namespace Resolved

def id (route : Resolved) : String := route.definition.id

/-- Resolves a definition; one without a target is no route, and no error. -/
def ofDefinition [Net.UrlParser] [Regex.Engine] (definition : Definition) :
    Except Error (Option Resolved) := do
  let predicates ← definition.predicates.mapM Predicate.compile
  let filters ← definition.filters.mapM Filter.compile
  match Target.ofDefinition? definition with
  | none => return none
  | some target =>
      target.checkUris
      return some {
        definition := definition
        target := target
        predicates := predicates
        filters := filters
        attributes := Attributes.ofMetadata definition.rawMetadata }

def ofRow [Net.UrlParser] [Regex.Engine] (row : Row) :
    Except Error (Option Resolved) := do
  ofDefinition (← Definition.ofRow row)

/-- Whether the route applies to a request. -/
def applies [Regex.Engine] (route : Resolved) (request : Http.Request) : Bool :=
  route.predicates.all (Predicate.holds request)

end Resolved

end EdgeGateway.Route
