import EdgeGateway.Net.Url
import EdgeGateway.Route.Definition

/-!
# Targets

Where a matched request is sent: one address, or one of several variants with a
weight each.  A roll below the total weight selects the variant in whose share
of the range it falls, so over all rolls each variant is selected as often as it
has weight.
-/

namespace EdgeGateway.Route

structure Variant where
  variantId : String
  weight : Nat
  uri : String
  deriving Repr, DecidableEq

inductive Target where
  | fixed (uri : String)
  | weighted (variants : List Variant)
  deriving Repr, DecidableEq

structure Selection where
  uri : String
  variantId : Option String
  deriving Repr, DecidableEq

namespace Target

/-- The first variant at which the weights so far exceed the roll. -/
def pick (roll : Nat) (before : Nat) : List Variant → Option Selection
  | [] => none
  | variant :: variants =>
      if roll < before + variant.weight then
        some ⟨variant.uri, some variant.variantId⟩
      else pick roll (before + variant.weight) variants

def selectWith (target : Target) (roll : Nat) : Option Selection :=
  match target with
  | fixed uri => some ⟨uri, none⟩
  | weighted variants => pick roll 0 variants

/-- The sum of the weights, or the largest 32-bit number if they exceed it. -/
def totalWeight : Target → Nat
  | fixed _ => 0
  | weighted variants =>
      variants.foldl
        (fun total variant => min Text.limit32 (total + variant.weight)) 0

/-- Selects by a source of rolls that is asked for one below the total. -/
def select (target : Target) (rollBelow : Nat → Nat) : Option Selection :=
  match target with
  | fixed _ => target.selectWith 0
  | weighted _ =>
      let total := target.totalWeight
      if total = 0 then none else target.selectWith (rollBelow total)

/-- The variants into whose share some roll below a total falls. -/
def reachableBelow (total before : Nat) : List Variant → List Selection
  | [] => []
  | variant :: variants =>
      let rest := reachableBelow total (before + variant.weight) variants
      if 0 < variant.weight ∧ before < total then
        ⟨variant.uri, some variant.variantId⟩ :: rest
      else rest

/-- Everything that `select` can select, in order. -/
def reachable : Target → List Selection
  | fixed uri => [⟨uri, none⟩]
  | weighted variants =>
      reachableBelow (weighted variants).totalWeight 0 variants

def uris : Target → List String
  | fixed uri => [uri]
  | weighted variants => variants.map Variant.uri

def isWeighted : Target → Bool
  | fixed _ => false
  | weighted _ => true

/-- The variants that have weight and an address. -/
def variantsOf (metadata : Metadata) : List Variant :=
  metadata.trafficSplits.filterMap fun split =>
    (presentText? (some split.uri)).bind fun uri =>
      if split.weight > 0 then some ⟨split.variantId, split.weight, uri⟩ else none

/-- A traffic split goes before the active deployment, and that before the plain
address. -/
def ofDefinition? (definition : Definition) : Option Target :=
  let plain := definition.uri.map fixed
  match definition.metadata with
  | none => plain
  | some metadata =>
      match variantsOf metadata with
      | [] =>
          match metadata.blueGreen.bind BlueGreen.activeUri? with
          | some uri => some (fixed uri)
          | none => plain
      | variants => some (weighted variants)

def allowedSchemes : List String := ["http", "https", "lb"]

def checkUri [Net.UrlParser] (uri : String) : Except Error Unit :=
  match Net.UrlParser.read uri with
  | .error error => .error (.invalidUri uri (.malformed error))
  | .ok url =>
      if !allowedSchemes.contains url.scheme then
        .error (.invalidUri uri (.unsupportedScheme url.scheme))
      else if url.host.getD "" = "" then
        .error (.invalidUri uri .missingHost)
      else .ok ()

def checkUris [Net.UrlParser] (target : Target) : Except Error Unit :=
  target.uris.forM checkUri

end Target

end EdgeGateway.Route
