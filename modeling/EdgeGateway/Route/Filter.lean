import EdgeGateway.Regex.Engine
import EdgeGateway.Route.Entry

/-!
# Filters

Filters edit the request that goes to the target: its path, and the header
fields to be added and removed.  They are applied in order, each to what the one
before it left.
-/

namespace EdgeGateway.Route

structure Edits where
  path : String
  addHeaders : List (String × String) := []
  removeHeaders : List String := []
  deriving Repr, DecidableEq

inductive Filter where
  | stripPrefix (parts : Nat)
  | prefixPath (text : String)
  | replacePath (pattern : Regex.Pattern) (replacement : String)
  | setPath (template : String)
  | addHeader (name value : String)
  | removeHeader (name : String)
  deriving Repr

namespace Filter

def compile [Regex.Engine] (entry : Entry) : Except Error Filter :=
  match Text.lowerAscii entry.name with
  | "stripprefix" => do
      let text ← entry.required .filter "parts" 0
      match Text.readNatural Text.limit64 text with
      | .ok parts => return stripPrefix parts
      | .error _ =>
          throw (.invalidEntry .filter
            s!"StripPrefix parts '{text}' is not a number")
  | "prefixpath" => do
      let text ← entry.required .filter "prefix" 0
      if text.toList.head? ≠ some '/' then
        throw (.invalidEntry .filter
          s!"PrefixPath prefix '{text}' must start with '/'")
      return prefixPath
        (String.ofList (Text.dropEndWhile (· = '/') text.toList))
  | "rewritepath" => do
      let text ← entry.required .filter "regexp" 0
      match Regex.Engine.compile text with
      | .ok pattern =>
          return replacePath pattern
            (Text.replace "$\\" "$" ((entry.find? "replacement" 1).getD ""))
      | .error error => throw (.invalidPattern text (.invalidRegex error))
  | "setpath" => return setPath (← entry.required .filter "template" 0)
  | "addrequestheader" => do
      let name ← entry.required .filter "name" 0
      return addHeader name ((entry.find? "value" 1).getD "")
  | "removerequestheader" =>
      return removeHeader (← entry.required .filter "name" 0)
  | _ => .error (.unknownName .filter entry.name)

/-- Drops leading segments; empty segments do not count and are not kept, but a
slash at the end stays if any segment is left. -/
def stripSegments (parts : Nat) (path : List Char) : List Char :=
  let remaining :=
    ((Text.splitAtEvery '/' path).filter (· ≠ [])).drop parts
  let trailing := path.getLast? = some '/' && !remaining.isEmpty
  '/' :: Text.glue ['/'] remaining ++ (if trailing then ['/'] else [])

/-- Puts values into a template, one variable after the other. -/
def fillTemplate (template : String) (captured : List (String × String)) :
    String :=
  captured.foldl (fun path (name, value) =>
    Text.replace ("\x7b" ++ name ++ "\x7d") value path) template

def apply [Regex.Engine] (captured : List (String × String)) (edits : Edits) :
    Filter → Edits
  | stripPrefix parts =>
      { edits with
        path := String.ofList (stripSegments parts edits.path.toList) }
  | prefixPath text => { edits with path := text ++ edits.path }
  | replacePath pattern replacement =>
      { edits with
        path := Regex.Engine.replaceFirst pattern replacement edits.path }
  | setPath template =>
      { edits with path := fillTemplate template captured }
  | addHeader name value =>
      { edits with addHeaders := edits.addHeaders ++ [(name, value)] }
  | removeHeader name =>
      { edits with
        removeHeaders := edits.removeHeaders ++ [Text.lowerAscii name] }

def applyAll [Regex.Engine] (filters : List Filter) (captured : List (String × String))
    (path : String) : Edits :=
  filters.foldl (apply captured) { path := path }

end Filter

end EdgeGateway.Route
