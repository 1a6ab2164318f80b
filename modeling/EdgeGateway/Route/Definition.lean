import EdgeGateway.Route.Entry
import EdgeGateway.Route.Row

/-!
# Route definitions

A row whose documents have been read: entries for predicates and filters, and
deployment metadata.  A path pattern in the row stands for a `Path` predicate in
front of the others, unless one of them is a `Path` predicate already.  The
weights of a traffic split sum to at most one hundred.
-/

namespace EdgeGateway.Route

inductive Slot where
  | blue
  | green
  deriving Repr, DecidableEq

namespace Slot

def name : Slot → String
  | blue => "blue"
  | green => "green"

def decode : Document → Decoded Slot :=
  Document.asVariant "blue or green" [("blue", blue), ("green", green)]

end Slot

/-- Two parallel deployments, one of which receives the traffic. -/
structure BlueGreen where
  active : Slot
  blueUri : Option String
  greenUri : Option String
  deriving Repr, DecidableEq

/-- Blanks around a text are dropped; a text of blanks is absent. -/
def presentText? (text : Option String) : Option String :=
  (text.map Text.trim).bind fun trimmed =>
    if trimmed = "" then none else some trimmed

namespace BlueGreen

def activeUri? (deployment : BlueGreen) : Option String :=
  presentText? <|
    match deployment.active with
    | .blue => deployment.blueUri
    | .green => deployment.greenUri

def decode (document : Document) : Decoded BlueGreen := do
  let fields ← document.asFields ["active", "blueUri", "greenUri"]
  return {
    active := ← fields.required "active" Slot.decode
    blueUri := ← fields.optional "blueUri" Document.asText
    greenUri := ← fields.optional "greenUri" Document.asText }

end BlueGreen

structure TrafficSplit where
  variantId : String
  weight : Nat
  uri : String
  deriving Repr, DecidableEq

namespace TrafficSplit

def decode (document : Document) : Decoded TrafficSplit := do
  let fields ← document.asFields ["variantId", "weight", "uri"]
  return {
    variantId := ← fields.required "variantId" Document.asText
    weight := ← fields.required "weight" (Document.asNatural Text.limit32)
    uri := ← fields.required "uri" Document.asText }

end TrafficSplit

structure Metadata where
  blueGreen : Option BlueGreen
  trafficSplits : List TrafficSplit
  deriving Repr, DecidableEq

namespace Metadata

def decode (document : Document) : Decoded Metadata := do
  let fields ← document.asFields ["blueGreen", "trafficSplits"]
  return {
    blueGreen := ← fields.optional "blueGreen" BlueGreen.decode
    trafficSplits := ← fields.withDefault "trafficSplits" []
      (Document.asList TrafficSplit.decode) }

def totalWeight (metadata : Metadata) : Nat :=
  metadata.trafficSplits.foldr (fun split total => split.weight + total) 0

/-- Null is no metadata. -/
def ofJson : Json → Except Error (Option Metadata)
  | .null => .ok none
  | value =>
      match decode (.ofJson value) with
      | .error error => .error (.invalidMetadata (.malformed error))
      | .ok metadata =>
          let total := metadata.totalWeight
          if total > Text.limit32 then .error (.invalidMetadata .overflow)
          else if total > 100 then .error (.invalidMetadata (.overweight total))
          else .ok (some metadata)

end Metadata

structure Definition where
  id : String
  predicates : List Entry
  filters : List Entry
  uri : Option String
  pathPattern : Option String
  enabled : Bool
  version : Int
  createdAt : Option Timestamp
  updatedAt : Option Timestamp
  metadata : Option Metadata
  /-- The metadata as it was stored, unless it is null. -/
  rawMetadata : Option Json
  deriving Repr

namespace Definition

def isPathEntry (entry : Entry) : Bool :=
  Text.equalIgnoringCase entry.name "Path"

def withPathPattern (pattern : Option String) (predicates : List Entry) :
    List Entry :=
  match pattern with
  | none => predicates
  | some text =>
      if predicates.any isPathEntry then predicates
      else (Entry.mk "Path" []).insert (Entry.positionalKey 0) text :: predicates

def ofRow (row : Row) : Except Error Definition := do
  let predicates ← Entry.listOfJson .predicate row.predicates
  let filters ← Entry.listOfJson .filter row.filters
  let pathPattern := presentText? row.pathPattern
  let metadata ←
    match row.metadata with
    | some value => Metadata.ofJson value
    | none => pure none
  return {
    id := row.id
    predicates := withPathPattern pathPattern predicates
    filters := filters
    uri := presentText? row.uri
    pathPattern := pathPattern
    enabled := row.enabled
    version := row.version
    createdAt := row.createdAt
    updatedAt := row.updatedAt
    metadata := metadata
    rawMetadata :=
      match row.metadata with
      | some .null => none
      | other => other }

end Definition

end EdgeGateway.Route
