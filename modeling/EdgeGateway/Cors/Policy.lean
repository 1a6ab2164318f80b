import EdgeGateway.Config.Basic
import EdgeGateway.Http.Headers
import EdgeGateway.Text.Blank

/-!
# CORS policy

A preflight is allowed when its origin, its method and all of its headers are.
Origins are compared trimmed, in lower case and without slashes at the end.  The
rule `https://*.example.com` covers every origin of that scheme whose host ends
in `.example.com` with something before it.
-/

namespace EdgeGateway.Cors

def normalizeOrigin (origin : String) : String :=
  let trimmed := Text.trimChars origin.toList
  String.ofList
    ((Text.dropEndWhile (· = '/') trimmed).map Text.lowerAsciiChar)

inductive OriginRule where
  | any
  | exact (origin : String)
  | subdomain (scheme suffix : String)
  deriving Repr, DecidableEq

/-- Cuts at the first occurrence of a piece. -/
def splitAtPiece? (piece : List Char) : List Char → Option (List Char × List Char)
  | [] => if piece = [] then some ([], []) else none
  | char :: rest =>
      match Text.dropPiece? piece (char :: rest) with
      | some after => some ([], after)
      | none =>
          (splitAtPiece? piece rest).map fun (before, after) =>
            (char :: before, after)

namespace OriginRule

def ofText (text : String) : OriginRule :=
  let origin := normalizeOrigin text
  if origin = "*" then any
  else
    match splitAtPiece? "://*.".toList origin.toList with
    | some (scheme, host) =>
        subdomain (String.ofList scheme) (String.ofList ('.' :: host))
    | none => exact origin

/-- Whether a text ends in a suffix and has something before it. -/
def endsProperly (suffix text : List Char) : Bool :=
  suffix.length < text.length && suffix.isSuffixOf text

def covers (origin : String) : OriginRule → Bool
  | any => true
  | exact allowed => allowed = origin
  | subdomain scheme suffix =>
      match Text.dropPiece? (scheme.toList ++ "://".toList) origin.toList with
      | some host => endsProperly suffix.toList host
      | none => false

end OriginRule

/-- The answer to an allowed preflight. -/
structure Allowance where
  allowOrigin : String
  varyOrigin : Bool
  allowMethods : String
  allowHeaders : Option String
  allowCredentials : Bool
  exposeHeaders : Option String
  maxAge : Nat
  deriving Repr, DecidableEq

namespace Allowance

def setOptional (name : String) (value : Option String)
    (headers : Http.Headers) : Http.Headers :=
  match value with
  | some value => headers.set name value
  | none => headers

/-- The header fields of the answer. -/
def headers (allowance : Allowance) : Http.Headers :=
  let headers := Http.Headers.empty
    |>.set "access-control-allow-origin" allowance.allowOrigin
    |>.set "access-control-allow-methods" allowance.allowMethods
  let headers :=
    setOptional "access-control-allow-headers" allowance.allowHeaders headers
  let headers :=
    if allowance.allowCredentials then
      headers.set "access-control-allow-credentials" "true"
    else headers
  let headers :=
    setOptional "access-control-expose-headers" allowance.exposeHeaders headers
  let headers :=
    headers.set "access-control-max-age" (Text.decimal allowance.maxAge)
  if allowance.varyOrigin then headers.append "vary" "Origin" else headers

end Allowance

inductive Rejection where
  | origin (text : String)
  | method (text : String)
  | header (name : String)
  deriving Repr, DecidableEq

namespace Rejection

def reason : Rejection → String
  | origin text => s!"origin '{text}' is not allowed"
  | method text => s!"method '{text}' is not allowed"
  | header name => s!"header '{name}' is not allowed"

end Rejection

structure Policy where
  origins : List OriginRule
  methods : List String
  /-- The headers that may be asked for; any header if there is no list. -/
  headers : Option (List String)
  /-- The configured headers as they are sent back. -/
  headersValue : String
  exposed : Option String
  allowCredentials : Bool
  maxAge : Nat
  deriving Repr, DecidableEq

namespace Policy

def nonEmpty? (text : String) : Option String :=
  if text = "" then none else some text

def ofConfig (config : Config.Cors) : Policy :=
  let names := (config.allowedHeaders.map fun name =>
    Text.lowerAscii (Text.trim name)).filter (· ≠ "")
  { origins := config.allowedOrigins.map OriginRule.ofText
    methods := config.allowedMethods.map fun name =>
      Text.upperAscii (Text.trim name)
    headers :=
      if config.allowedHeaders.any fun name => Text.trim name = "*" then none
      else some names
    headersValue := Text.join ", " names
    exposed := nonEmpty? <|
      Text.join ", " ((config.exposedHeaders.map Text.trim).filter (· ≠ ""))
    allowCredentials := config.allowCredentials
    maxAge := config.maxAge }

/-- Checks the headers asked for, and gives the ones to send back. -/
def allowHeaders (policy : Policy) (requested : List String) :
    Except Rejection (Option String) :=
  match policy.headers with
  | none =>
      .ok (if requested.isEmpty then none else some (Text.join ", " requested))
  | some allowed =>
      match requested.find? fun name => !allowed.contains name with
      | some denied => .error (.header denied)
      | none => .ok (nonEmpty? policy.headersValue)

/-- Decides on a preflight; `requested` is a normal form of the headers. -/
def evaluate (policy : Policy) (origin method : String)
    (requested : List String) : Except Rejection Allowance := do
  let normalized := normalizeOrigin origin
  let rule ←
    match policy.origins.find? (OriginRule.covers normalized) with
    | some rule => pure rule
    | none => throw (.origin origin)
  let name := Text.upperAscii (Text.trim method)
  if !policy.methods.contains name then throw (.method name)
  let headers ← policy.allowHeaders requested
  let wildcard := rule = .any && !policy.allowCredentials
  return {
    allowOrigin := if wildcard then "*" else normalized
    varyOrigin := !wildcard
    allowMethods := Text.join ", " policy.methods
    allowHeaders := headers
    allowCredentials := policy.allowCredentials
    exposeHeaders := policy.exposed
    maxAge := policy.maxAge }

end Policy

end EdgeGateway.Cors
