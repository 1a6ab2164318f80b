import EdgeGateway.Route.Match

/-!
# Writing routes

Rows, definitions and their parts as documents, and a short form of what has
been compiled.
-/

namespace EdgeGateway.Route

def textMap (pairs : List (String × String)) : Json :=
  .object (pairs.map fun (name, text) => (name, .string text))

def textPairs (pairs : List (String × String)) : Json :=
  .array (pairs.map fun (name, text) => .array [.string name, .string text])

/-- The columns of a row, its times apart. -/
def Row.toJson (row : Row) : Json :=
  .object
    [("id", .string row.id), ("predicates", row.predicates),
     ("filters", row.filters), ("uri", .ofOption .string row.uri),
     ("path_pattern", .ofOption .string row.pathPattern),
     ("metadata", row.metadata.getD .null), ("version", .ofInt row.version)]

def Entry.toJson (entry : Entry) : Json :=
  .object [("name", .string entry.name), ("args", textMap entry.arguments)]

def BlueGreen.toJson (deployment : BlueGreen) : Json :=
  .object
    [("active", .string deployment.active.name),
     ("blueUri", .ofOption .string deployment.blueUri),
     ("greenUri", .ofOption .string deployment.greenUri)]

def TrafficSplit.toJson (split : TrafficSplit) : Json :=
  .object
    [("variantId", .string split.variantId), ("weight", .ofNat split.weight),
     ("uri", .string split.uri)]

def Metadata.toJson (metadata : Metadata) : Json :=
  .object
    [("blueGreen", .ofOption BlueGreen.toJson metadata.blueGreen),
     ("trafficSplits", .array (metadata.trafficSplits.map TrafficSplit.toJson))]

/-- A definition with its times, if its row had them. -/
def Definition.toJson (definition : Definition) : Json :=
  let time (name : String) (time : Option Timestamp) : List (String × Json) :=
    match time with
    | some time => [(name, .string time.write)]
    | none => []
  .object <|
    [("id", .string definition.id),
     ("predicates", .array (definition.predicates.map Entry.toJson)),
     ("filters", .array (definition.filters.map Entry.toJson)),
     ("uri", .ofOption .string definition.uri),
     ("path_pattern", .ofOption .string definition.pathPattern),
     ("enabled", .bool definition.enabled),
     ("version", .ofInt definition.version),
     ("metadata", .ofOption Metadata.toJson definition.metadata),
     ("raw_metadata", definition.rawMetadata.getD .null),
     ("active_uri", .ofOption .string
       ((definition.metadata.bind Metadata.blueGreen).bind
         BlueGreen.activeUri?))] ++
    time "created_at" definition.createdAt ++
    time "updated_at" definition.updatedAt

def Predicate.toJson : Predicate → Json
  | path patterns =>
      .object [("path", .ofStrings (patterns.map PathPattern.text))]
  | method methods => .object [("method", .ofStrings methods)]
  | header name value =>
      .object [("header", .string name), ("regex", .bool value.isSome)]
  | host patterns => .object [("host", .ofNat patterns.length)]
  | query parameter value =>
      .object [("query", .string parameter), ("regex", .bool value.isSome)]

def Filter.toJson : Filter → Json
  | stripPrefix parts => .object [("strip", .ofNat parts)]
  | prefixPath text => .object [("prefix", .string text)]
  | replacePath pattern replacement =>
      .object
        [("rewrite", .string pattern.source), ("replacement", .string replacement)]
  | setPath template => .object [("set", .string template)]
  | addHeader name value =>
      .object [("add", .array [.string name, .string value])]
  | removeHeader name => .object [("remove", .string name)]

def Target.toJson : Target → Json
  | fixed uri => .object [("fixed", .string uri)]
  | weighted variants =>
      .object
        [("weighted", .array (variants.map fun variant =>
          .array
            [.string variant.variantId, .ofNat variant.weight,
             .string variant.uri]))]

def Selection.toJson (selection : Selection) : Json :=
  .array [.string selection.uri, .ofOption .string selection.variantId]

def Match.toJson (found : Match) : Json :=
  .object
    [("route_id", .string found.routeId), ("upstream", .string found.base),
     ("variant_id", .ofOption .string found.variantId),
     ("path", .string found.path), ("query", .ofOption .string found.query),
     ("add_headers", textPairs found.addHeaders),
     ("remove_headers", .ofStrings found.removeHeaders),
     ("url", .string found.url)]

end EdgeGateway.Route
