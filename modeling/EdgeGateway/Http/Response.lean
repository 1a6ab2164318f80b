import EdgeGateway.Http.HopByHop
import EdgeGateway.Json.Writer
import EdgeGateway.Explanation
import EdgeGateway.Text.Utf8

/-!
# Responses

A response says how long its body is, if that is known when it is made.  Of two
bodies the words are not the gateway's own: the table of its counters, and what
is said about a request body that cannot be read.
-/

namespace EdgeGateway.Http

inductive Body where
  | empty
  | text (value : String)
  | json (value : Json)
  /-- A body that is passed on as it comes in. -/
  | passedOn (bytes : ByteArray)
  | counters
  | rejection (reason : Explanation)

namespace Body

/-- The length in bytes, for a body whose words are the gateway's own. -/
def length? : Body → Option Nat
  | empty => some 0
  | text value => some (Text.byteLength value)
  | json value => some (Text.byteLength value.write)
  | passedOn _ => none
  | counters => none
  | rejection _ => none

end Body

structure Response where
  status : Nat
  headers : Headers := {}
  body : Body := .empty

namespace Response

def ofText (status : Nat) (value : String) : Response where
  status := status
  headers := .ofList [("content-type", "text/plain; charset=utf-8")]
  body := .text value

def ofJson (status : Nat) (value : Json) : Response where
  status := status
  headers := .ofList [("content-type", "application/json")]
  body := .json value

def rejection (status : Nat) (reason : Explanation) : Response where
  status := status
  headers := .ofList [("content-type", "text/plain; charset=utf-8")]
  body := .rejection reason

/-- States the length of the body, unless it is stated already. -/
def withLength (response : Response) : Response :=
  match response.body.length? with
  | some length =>
      if response.headers.contains "content-length" then response
      else
        { response with
          headers :=
            response.headers.append "content-length" (Text.decimal length) }
  | none => response

/-- The same response without its body. -/
def withoutBody (response : Response) : Response :=
  { response with body := .empty }

end Response

end EdgeGateway.Http
