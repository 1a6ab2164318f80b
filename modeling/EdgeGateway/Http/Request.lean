import EdgeGateway.Http.Headers
import EdgeGateway.Text.Blank
import EdgeGateway.Text.Pieces

/-!
# Requests

The parts of a request that decisions look at.  The target is cut at its first
question mark into a path and a query.  The context of a request is what the
gateway knows about it beyond its parts: an id to follow it by, the tenant, and,
once they are known, the region that serves it and the version the tenant is
given.
-/

namespace EdgeGateway.Http

structure Request where
  method : String
  path : String
  query : Option String
  headers : Headers
  deriving Repr, DecidableEq

/-- The path and the query of a target, which may come with a scheme and an
authority before them and a fragment after them. -/
def pathAndQuery (target : String) : String :=
  let text := target.toList.takeWhile (· ≠ '#')
  match text with
  | '/' :: _ => String.ofList text
  | ['*'] => "*"
  | _ =>
      let afterScheme := text.dropWhile (· ≠ '/')
      let afterAuthority :=
        (afterScheme.drop 2).dropWhile fun char => char ≠ '/' && char ≠ '?'
      if afterAuthority = [] then "/" else String.ofList afterAuthority

namespace Request

def ofTarget (method target : String) (headers : Headers) : Request :=
  match Text.splitFirst? '?' target with
  | some (path, query) => ⟨method, path, some query, headers⟩
  | none => ⟨method, target, none, headers⟩

def header? (request : Request) (name : String) : Option String :=
  request.headers.text? name

/-- The host header up to its first colon. -/
def host? (request : Request) : Option String :=
  (request.header? "host").map fun host =>
    String.ofList (host.toList.takeWhile (· ≠ ':'))

end Request

structure Context where
  correlationId : String
  tenantId : Option String
  region : Option String := none
  effectiveVersion : Option String := none
  deriving Repr, DecidableEq

def hexByte (byte : Nat) : List Char :=
  [Nat.digitChar (byte / 16 % 16), Nat.digitChar (byte % 16)]

/-- An id made of sixteen random bytes, some bits of which say that they are
random. -/
def idOfBytes (bytes : List Nat) : String :=
  let marked := bytes.mapIdx fun index byte =>
    if index = 6 then 0x40 + byte % 16
    else if index = 8 then 0x80 + byte % 64
    else byte
  let part (start length : Nat) : String :=
    String.ofList (((marked.drop start).take length).flatMap hexByte)
  Text.join "-" [part 0 4, part 4 2, part 6 2, part 8 2, part 10 6]

namespace Context

/-- The context of a request; `freshId` identifies it when the caller did not. -/
def ofRequest (request : Request) (tenantHeader freshId : String) : Context where
  correlationId :=
    match request.header? "x-request-id" with
    | some id => if id = "" then freshId else id
    | none => freshId
  tenantId :=
    match (request.header? tenantHeader).map Text.trim with
    | some tenant => if tenant = "" then none else some tenant
    | none => none

end Context

end EdgeGateway.Http
