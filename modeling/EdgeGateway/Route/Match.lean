import EdgeGateway.Route.Resolved

/-!
# Matches

A request is sent along the first route that applies to it and whose target
selects an address.  The route's filters have been applied to the path of a
match; its query is that of the request.
-/

namespace EdgeGateway.Route

structure Match where
  routeId : String
  base : String
  variantId : Option String
  path : String
  query : Option String
  addHeaders : List (String × String)
  removeHeaders : List String
  deriving Repr, DecidableEq

namespace Match

/-- Where a target is reached: a logical service by its name, and without the
slashes at the end, since a path follows. -/
def baseUrl (base : String) : String :=
  let url :=
    match Text.stripPrefix? "lb://" base with
    | some name => "http://" ++ name
    | none => base
  String.ofList (Text.dropEndWhile (· = '/') url.toList)

def url (found : Match) : String :=
  baseUrl found.base ++ found.path ++
    match found.query with
    | some query => "?" ++ query
    | none => ""

/-- The match of a request with a route that has selected an address. -/
def ofSelection (request : Http.Request) (route : Resolved)
    (selection : Selection) : Match :=
  let captured := Predicate.pathVariables route.predicates request.path
  let edits := Filter.applyAll route.filters captured request.path
  { routeId := route.id
    base := selection.uri
    variantId := selection.variantId
    path := edits.path
    query := request.query
    addHeaders := edits.addHeaders
    removeHeaders := edits.removeHeaders }

/-- The match of a request in a list of routes, for a source of rolls. -/
def find? (request : Http.Request) (rollBelow : Nat → Nat)
    (routes : List Resolved) : Option Match :=
  (routes.filter fun route => route.applies request).findSome? fun route =>
    (route.target.select rollBelow).map (ofSelection request route)

/-- Every match that some roll leads to. -/
def possible (request : Http.Request) (routes : List Resolved) :
    List Match :=
  let applying := routes.filter fun route => route.applies request
  match applying.find? fun route => !route.target.reachable.isEmpty with
  | some route => route.target.reachable.map (ofSelection request route)
  | none => []

end Match

end EdgeGateway.Route
