import EdgeGateway.Http.Request
import EdgeGateway.Net.Percent
import EdgeGateway.Regex.Engine
import EdgeGateway.Route.Entry
import EdgeGateway.Route.PathPattern

/-!
# Predicates

A route applies to a request when all of its predicates hold.  Where a predicate
takes a regular expression, the expression has to match the whole value.  Host
patterns have two wildcards, `*` for a part of one label and `**` for any text,
and ignore case.
-/

namespace EdgeGateway.Route

inductive Predicate where
  | path (patterns : List PathPattern)
  | method (methods : List String)
  | header (name : String) (value : Option Regex.Pattern)
  | host (patterns : List Regex.Pattern)
  | query (parameter : String) (value : Option Regex.Pattern)
  deriving Repr

namespace Predicate

/-- Compiles an expression that has to match a whole value. -/
def compileWhole [Regex.Engine] (text : String) : Except Error Regex.Pattern :=
  match Regex.Engine.compile ("^(?:" ++ text ++ ")$") with
  | .ok pattern => .ok pattern
  | .error error => .error (.invalidPattern text (.invalidRegex error))

def compileOptional [Regex.Engine] : Option String → Except Error (Option Regex.Pattern)
  | none => .ok none
  | some text => (compileWhole text).map some

def hostExprs : List Char → List Regex.Expr
  | [] => []
  | '*' :: '*' :: rest => .star .anyButNewline :: hostExprs rest
  | '*' :: rest => .star (.anyBut '.') :: hostExprs rest
  | char :: rest => .charIgnoringCase char :: hostExprs rest

def compileHost (text : String) : Except Error Regex.Pattern :=
  let expr := Regex.Expr.sequence
    (.startsText :: hostExprs text.toList ++ [.endsText])
  match Regex.Pattern.ofExpr text expr [] with
  | .ok pattern => .ok pattern
  | .error error => .error (.invalidPattern text (.invalidRegex error))

/-- A list argument that may not be empty. -/
def requiredList (entry : Entry) (keys : List String) (reported : String) :
    Except Error (List String) :=
  match entry.list keys with
  | [] => .error (.missingArgument .predicate entry.name reported)
  | values => .ok values

def compile [Regex.Engine] (entry : Entry) : Except Error Predicate :=
  match Text.lowerAscii entry.name with
  | "path" => do
      let patterns ← requiredList entry ["patterns", "pattern"] "patterns"
      return path (← patterns.mapM PathPattern.compile)
  | "method" => do
      let methods ← requiredList entry ["methods", "method"] "methods"
      return method (methods.map Text.upperAscii)
  | "header" => do
      let name ← entry.required .predicate "header" 0
      return header (Text.lowerAscii name)
        (← compileOptional (entry.find? "regexp" 1))
  | "host" => do
      let patterns ← requiredList entry ["patterns", "pattern"] "patterns"
      return host (← patterns.mapM compileHost)
  | "query" => do
      let parameter ← entry.required .predicate "param" 0
      return query parameter (← compileOptional (entry.find? "regexp" 1))
  | _ => .error (.unknownName .predicate entry.name)

/-- No pattern accepts every value. -/
def accepts [Regex.Engine] (pattern : Option Regex.Pattern) (value : String) :
    Bool :=
  match pattern with
  | some pattern => Regex.Engine.isMatch pattern value
  | none => true

def holds [Regex.Engine] (request : Http.Request) : Predicate → Bool
  | path patterns => patterns.any fun pattern => pattern.isMatch request.path
  | method methods => methods.contains request.method
  | header name value =>
      match request.header? name with
      | some actual => accepts value actual
      | none => false
  | host patterns =>
      match request.host? with
      | some actual => patterns.any fun pattern => pattern.isMatch actual
      | none => false
  | query parameter value =>
      match request.query with
      | some text =>
          (Net.queryPairs text).any fun (name, actual) =>
            name = parameter && accepts value actual
      | none => false

/-- What the first path pattern that matches captured. -/
def pathVariables (predicates : List Predicate) (requestPath : String) :
    List (String × String) :=
  (predicates.findSome? fun predicate =>
    match predicate with
    | path patterns => patterns.findSome? fun pattern => pattern.captures? requestPath
    | _ => none).getD []

end Predicate

end EdgeGateway.Route
