import EdgeGateway.Gateway.Service
import EdgeGateway.Http.Message
import EdgeGateway.Net.Url

/-!
# Exchanges

Requests and responses as the bytes of their messages, on the side of the clients
and on the side of the backends.  Every connection carries one request and its
response.
-/

namespace EdgeGateway.Gateway

/-- Largest request that is taken in: a body just too large to be forwarded. -/
def messageLimit : Nat := bodyLimit + 65536

def closing (headers : Http.Headers) : Http.Headers :=
  headers.set "connection" "close"

def withBody (headers : Http.Headers) (body : ByteArray) : Http.Headers :=
  headers.set "content-length" (Text.decimal body.size)

/-- A request, once all of it has come in.  One that ends too early has a body
that cannot be read. -/
def Inbound.read? (ended : Bool) (bytes : ByteArray) : Option Inbound := do
  let (head, start) ← Http.Head.read? bytes
  let [method, target, _] := head.words | none
  let body := bytes.extract start bytes.size
  match Http.readBody? (head.framing (.sized 0)) ended body with
  | some body => return ⟨method, target, head.headers, .ok body⟩
  | none =>
      if ended then return ⟨method, target, head.headers, .error "unexpected end of file"⟩
      else if messageLimit < bytes.size then return ⟨method, target, head.headers, .ok body⟩
      else none

/-- The table of the counters. -/
def countersText (totals : List (String × Nat)) : String :=
  String.join <| totals.map fun (name, total) =>
    name ++ " " ++ Text.decimal total ++ "\n"

def bodyBytes (totals : List (String × Nat)) : Http.Body → ByteArray
  | .empty => .empty
  | .text value => value.toUTF8
  | .json value => value.write.toUTF8
  | .passedOn bytes => bytes
  | .counters => (countersText totals).toUTF8
  | .rejection reason => reason.full.toUTF8

/-- A response as it is sent; a body whose length is not stated gets one. -/
def responseMessage (totals : List (String × Nat)) (method : String)
    (response : Http.Response) : ByteArray :=
  let body := bodyBytes totals response.body
  let headers :=
    if response.headers.contains "content-length" then response.headers
    else withBody response.headers body
  let head : Http.Head :=
    ⟨"HTTP/1.1 " ++ Text.decimal response.status ++ " ", closing headers⟩
  head.write.toUTF8 ++ (if method = "HEAD" then .empty else body)

/-- Where a backend is reached. -/
structure Backend where
  host : String
  number : Nat
  /-- The host and the number as a request names them. -/
  authority : String
  target : String
  deriving Repr, DecidableEq

/-- The backend of a URL, which has to be reached without encryption. -/
def Backend.ofUrl (url : String) : Except String Backend :=
  match Net.Url.read url with
  | .error error => .error error.message
  | .ok url =>
      match url.scheme, url.host with
      | "http", some host =>
          let path := String.ofList (url.rest.toList.takeWhile (· ≠ '#'))
          .ok {
            host := host
            number := url.number.getD 80
            authority :=
              host ++ (url.number.map fun number => ":" ++ Text.decimal number).getD ""
            target := if Text.startsWith path "/" then path else "/" ++ path }
      | _, _ => .error "only http is supported"

/-- A request as it is sent to its backend. -/
def requestMessage (backend : Backend) (request : ForwardRequest)
    (body : ByteArray) : ByteArray :=
  let headers := (closing (withBody request.headers body)).set "host" backend.authority
  let head : Http.Head :=
    ⟨request.method ++ " " ++ backend.target ++ " HTTP/1.1", headers⟩
  head.write.toUTF8 ++ body

/-- Whether a response to a method carries no body. -/
def isBodyless (method : String) (status : Nat) : Bool :=
  method = "HEAD" || status = 204 || status = 304

/-- The reply of a backend, once all of it has come in. -/
def Reply.read? (method : String) (ended : Bool) (bytes : ByteArray) :
    Option Reply := do
  match Http.Head.read? bytes with
  | none => if ended then return .failed "the connection was closed" else none
  | some (head, start) =>
      let some (.ok status) := head.words[1]?.map (Text.readNatural 999)
        | return .failed "the status cannot be read"
      let framing :=
        if isBodyless method status then .sized 0 else head.framing .untilEnd
      match Http.readBody? framing ended (bytes.extract start bytes.size) with
      | some body => return .answered status head.headers body
      | none =>
          if ended then return .failed "the body is not complete" else none

end EdgeGateway.Gateway
