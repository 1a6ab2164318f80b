import EdgeGateway.Document.Decode
import EdgeGateway.Time.Timestamp

/-!
# Stored rows

A route row as the administrative side stores it.  Predicates, filters and
deployment metadata are free documents here and are given their meaning when the
route is resolved.  A row without a time stands for the time of reading it.
-/

namespace EdgeGateway.Route

structure Row where
  id : String
  predicates : Json := .null
  filters : Json := .null
  uri : Option String := none
  pathPattern : Option String := none
  metadata : Option Json := none
  enabled : Bool := true
  version : Int := 0
  createdAt : Option Timestamp := none
  updatedAt : Option Timestamp := none
  deriving Repr

namespace Row

def decodeTime (document : Document) : Decoded (Option Timestamp) := do
  let text ← document.asText
  match Timestamp.read? text with
  | some time => return some time
  | none => throw (.invalidText "a date and time")

def decodeJson (document : Document) : Decoded Json :=
  .ok document.toJson.sortMembers

def decode (document : Document) : Decoded Row := do
  let fields ← document.asFields
    ["id", "predicates", "filters", "uri", "path_pattern", "metadata",
     "enabled", "version", "created_at", "updated_at"]
  return {
    id := ← fields.required "id" Document.asText
    predicates := ← fields.withDefault "predicates" .null decodeJson
    filters := ← fields.withDefault "filters" .null decodeJson
    uri := ← fields.optional "uri" Document.asText
    pathPattern := ← fields.optional "path_pattern" Document.asText
    metadata := ← fields.optional "metadata" decodeJson
    enabled := ← fields.withDefault "enabled" true Document.asBool
    version := ← fields.withDefault "version" 0 Document.asInt64
    createdAt := ← fields.withDefault "created_at" none decodeTime
    updatedAt := ← fields.withDefault "updated_at" none decodeTime }

end Row

end EdgeGateway.Route
