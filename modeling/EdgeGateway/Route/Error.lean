import EdgeGateway.Explanation
import EdgeGateway.Net.Url
import EdgeGateway.Regex.Basic
import EdgeGateway.Document.Decode

/-!
# Malformed routes

Why a row cannot become a route.  One malformed row is skipped; it never keeps
the other rows from being loaded.
-/

namespace EdgeGateway.Route

/-- Predicates are conditions on a request, filters are edits of it. -/
inductive EntryKind where
  | predicate
  | filter
  deriving Repr, DecidableEq

namespace EntryKind

def name : EntryKind → String
  | predicate => "predicate"
  | filter => "filter"

end EntryKind

inductive PatternFault where
  | relative
  | unclosedVariable
  | invalidVariable (name : String)
  | invalidRegex (error : Regex.SyntaxError)
  deriving Repr, DecidableEq

namespace PatternFault

def explain : PatternFault → Explanation
  | relative => "path patterns must start with '/'"
  | unclosedVariable => "unclosed '\x7b'"
  | invalidVariable name => s!"invalid variable name '{name}'"
  | invalidRegex error => .withReason "" error.message

end PatternFault

inductive MetadataFault where
  | malformed (error : DecodeError)
  | overweight (total : Nat)
  | overflow
  deriving Repr, DecidableEq

namespace MetadataFault

def explain : MetadataFault → Explanation
  | malformed error => .withReason "" error.message
  | overweight total => s!"traffic split weights sum to {total} (max 100)"
  | overflow => "traffic split weights overflow"

end MetadataFault

inductive UriFault where
  | malformed (error : Net.UrlError)
  | unsupportedScheme (scheme : String)
  | missingHost
  deriving Repr, DecidableEq

namespace UriFault

def explain : UriFault → Explanation
  | malformed error => .withReason "" error.message
  | unsupportedScheme scheme => s!"unsupported scheme '{scheme}'"
  | missingHost => "missing host"

end UriFault

inductive Error where
  | invalidEntry (kind : EntryKind) (reason : String)
  | unknownName (kind : EntryKind) (name : String)
  | missingArgument (kind : EntryKind) (name argument : String)
  | invalidPattern (pattern : String) (fault : PatternFault)
  | invalidMetadata (fault : MetadataFault)
  | invalidUri (uri : String) (fault : UriFault)
  deriving Repr, DecidableEq

namespace Error

def explain : Error → Explanation
  | invalidEntry kind reason => s!"invalid {kind.name} entry: {reason}"
  | unknownName kind name => s!"unknown {kind.name} '{name}'"
  | missingArgument kind name argument =>
      s!"{kind.name} '{name}' is missing argument '{argument}'"
  | invalidPattern pattern fault =>
      fault.explain.after s!"invalid pattern '{pattern}': "
  | invalidMetadata fault =>
      fault.explain.after "invalid deployment metadata: "
  | invalidUri uri fault =>
      fault.explain.after s!"invalid target uri '{uri}': "

end Error

end EdgeGateway.Route
