import EdgeGateway.Proofs.Route.BaseUrl
import Mathlib.Algebra.GroupWithZero.Nat
import Mathlib.Algebra.Order.BigOperators.Group.List
import Mathlib.Algebra.Order.Group.Nat

/-!
# Where a row leads

A row can name three targets: the splits that have weight and an address, the
active deployment, and the plain address.  The first of them that is there is the
target, whatever the others are, and a row without any is no route.  What stands
around an address is dropped, and every address of the target is checked, so a
row with an address that cannot be used is malformed.  Metadata is refused if it
has another shape or if all its splits, usable or not, weigh more than a hundred.

Whatever library reads addresses, those that it can read with one of three schemes and
with a host are the ones that can be used.
-/

namespace EdgeGateway.Route

/-- The weight of all splits, however large. -/
def Metadata.weight (metadata : Metadata) : Nat :=
  (metadata.trafficSplits.map TrafficSplit.weight).sum

/-- The splits with weight and an address. -/
def Metadata.usable (metadata : Metadata) : List TrafficSplit :=
  metadata.trafficSplits.filter fun split =>
    0 < split.weight && !Text.isBlankText split.uri

def TrafficSplit.variant (split : TrafficSplit) : Variant :=
  ⟨split.variantId, split.weight, Text.trim split.uri⟩

/-- The metadata that a row has: none, or a document that is not null, has the right
shape and does not weigh too much. -/
inductive Row.Bears (row : Row) : Option Metadata → Prop
  | nothing (hnone : row.metadata = none ∨ row.metadata = some .null) : row.Bears none
  | document {document : Json} {metadata : Metadata}
      (hdocument : row.metadata = some document) (hsome : document ≠ .null)
      (hshape : Metadata.decode (.ofJson document) = .ok metadata)
      (hweight : metadata.weight ≤ 100) : row.Bears (some metadata)

/-- The predicates and filters of a row can be compiled. -/
structure Row.Compiles [Regex.Engine] (row : Row) (predicates : List Predicate)
    (filters : List Filter) : Prop where
  predicates : ∃ entries, Entry.listOfJson .predicate row.predicates = .ok entries ∧
    (Definition.withPathPattern (presentText? row.pathPattern) entries).mapM
      Predicate.compile = .ok predicates
  filters : ∃ entries, Entry.listOfJson .filter row.filters = .ok entries ∧
    entries.mapM Filter.compile = .ok filters

namespace Target

/-- An address that can be used. -/
def IsAddress [Net.UrlParser] (uri : String) : Prop :=
  ∃ url host, Net.UrlParser.read uri = .ok url ∧
    url.scheme ∈ ["http", "https", "lb"] ∧ url.host = some host ∧ host ≠ ""

def ofSplits? (metadata : Metadata) : Option Target :=
  if metadata.usable = [] then none
  else some (weighted (metadata.usable.map TrafficSplit.variant))

/-- The first target that a row names. -/
def first? (uri : Option String) (metadata : Option Metadata) : Option Target :=
  [metadata.bind ofSplits?,
    (metadata.bind fun found => found.blueGreen.bind BlueGreen.activeUri?).map fixed,
    (presentText? uri).map fixed].findSome? id

end Target

/-! ## Texts that are there -/

theorem presentText?_eq (text : String) :
    presentText? (some text) =
      if Text.isBlankText text then none else some (Text.trim text) := by
  rw [presentText?, Option.map_some, Option.bind_some]
  simp only [Text.trim_eq_empty_iff]

theorem trim_of_presentText? {text : Option String} {found : String}
    (hfound : presentText? text = some found) : Text.trim found = found := by
  cases text with
  | none => simp [presentText?] at hfound
  | some text =>
      rw [presentText?_eq] at hfound
      split at hfound
      next => simp at hfound
      next =>
        obtain rfl := Option.some.inj hfound
        exact Text.trim_trim text

/-! ## Metadata -/

theorem Metadata.totalWeight_eq (metadata : Metadata) :
    metadata.totalWeight = metadata.weight := by
  unfold totalWeight weight
  induction metadata.trafficSplits with
  | nil => rfl
  | cons split splits ih => simp [ih]

theorem Metadata.ofJson_eq {document : Json} (hsome : document ≠ .null) :
    ofJson document =
      match decode (.ofJson document) with
      | .error error => .error (.invalidMetadata (.malformed error))
      | .ok metadata =>
          if metadata.weight > Text.limit32 then .error (.invalidMetadata .overflow)
          else if metadata.weight > 100 then
            .error (.invalidMetadata (.overweight metadata.weight))
          else .ok (some metadata) := by
  simp only [← totalWeight_eq]
  cases document with
  | null => exact absurd rfl hsome
  | _ => rfl

/-- What is read of the metadata of a row. -/
def Row.readMetadata (row : Row) : Except Error (Option Metadata) :=
  match row.metadata with
  | some document => Metadata.ofJson document
  | none => .ok none

theorem Row.Bears.readMetadata {row : Row} {metadata : Option Metadata}
    (hbears : row.Bears metadata) : row.readMetadata = .ok metadata := by
  cases hbears with
  | nothing hnone =>
      rcases hnone with hnone | hnull
      · rw [Row.readMetadata, hnone]
      · rw [Row.readMetadata, hnull]
        rfl
  | document hdocument hsome hshape hweight =>
      have hlimit : 100 < Text.limit32 := by decide
      rw [Row.readMetadata, hdocument]
      simp only [Metadata.ofJson_eq hsome, hshape]
      rw [if_neg (by omega), if_neg (by omega)]

/-- Metadata that a row does not have is refused. -/
theorem Row.readMetadata_of_not_bears {row : Row}
    (hnone : ∀ metadata, ¬ row.Bears metadata) :
    ∃ fault, row.readMetadata = .error (.invalidMetadata fault) := by
  cases hdocument : row.metadata with
  | none => exact absurd (.nothing (Or.inl hdocument)) (hnone none)
  | some document =>
      have hsome : document ≠ .null := by
        rintro rfl
        exact hnone none (.nothing (Or.inr hdocument))
      rw [Row.readMetadata, hdocument]
      simp only [Metadata.ofJson_eq hsome]
      cases hshape : Metadata.decode (.ofJson document) with
      | error error => exact ⟨_, rfl⟩
      | ok metadata =>
          have hheavy : 100 < metadata.weight := by
            by_contra hlight
            exact hnone _ (.document hdocument hsome hshape (Nat.not_lt.mp hlight))
          simp only [if_pos hheavy]
          split
          next => exact ⟨_, rfl⟩
          next => exact ⟨_, rfl⟩

/-! ## The target -/

namespace Target

theorem variantsOf_eq (metadata : Metadata) :
    variantsOf metadata = metadata.usable.map TrafficSplit.variant := by
  unfold variantsOf Metadata.usable
  induction metadata.trafficSplits with
  | nil => rfl
  | cons split splits ih =>
      rw [List.filterMap_cons, List.filter_cons, ih, presentText?_eq]
      by_cases hblank : Text.isBlankText split.uri = true
      · simp [hblank]
      · by_cases hweight : 0 < split.weight <;>
          simp [hblank, hweight, TrafficSplit.variant]

/-- The three targets are looked for in their order. -/
theorem ofDefinition?_eq {definition : Definition} {uri : Option String}
    (huri : definition.uri = presentText? uri) :
    ofDefinition? definition = first? uri definition.metadata := by
  unfold ofDefinition? first?
  rw [huri]
  cases definition.metadata with
  | none => cases presentText? uri <;> rfl
  | some metadata =>
      simp only [variantsOf_eq, Option.bind_some, ofSplits?]
      cases metadata.usable with
      | nil =>
          cases metadata.blueGreen.bind BlueGreen.activeUri? with
          | none => cases presentText? uri <;> rfl
          | some address => rfl
      | cons split splits => rfl

theorem checkUri_eq_ok_iff [Net.UrlParser] {uri : String} :
    checkUri uri = .ok () ↔ IsAddress uri := by
  unfold checkUri IsAddress
  cases Net.UrlParser.read uri with
  | error error => simp
  | ok url =>
      simp only [Except.ok.injEq, exists_and_left, exists_eq_left']
      split
      next hscheme => simp_all [allowedSchemes]
      next hscheme =>
        have hallowed : url.scheme ∈ allowedSchemes := by simpa using hscheme
        cases url.host <;> simp_all [allowedSchemes]

theorem exists_fault_of_checkUri [Net.UrlParser] {uri : String} {error : Error}
    (herror : checkUri uri = .error error) :
    ∃ fault, error = .invalidUri uri fault := by
  unfold checkUri at herror
  split at herror
  next => exact ⟨_, (Except.error.inj herror).symm⟩
  next =>
    split at herror
    next => exact ⟨_, (Except.error.inj herror).symm⟩
    next =>
      split at herror
      next => exact ⟨_, (Except.error.inj herror).symm⟩
      next => simp at herror

theorem checkUris_eq_ok_iff [Net.UrlParser] {target : Target} :
    target.checkUris = .ok () ↔ ∀ uri ∈ target.uris, IsAddress uri := by
  simp only [checkUris, forM_eq_ok_iff, checkUri_eq_ok_iff]

/-- A target with an address that cannot be used is refused for such an address. -/
theorem checkUris_of_not_address [Net.UrlParser] {target : Target} {uri : String}
    (hmem : uri ∈ target.uris) (hill : ¬ IsAddress uri) :
    ∃ other ∈ target.uris, ∃ fault,
      target.checkUris = .error (.invalidUri other fault) := by
  cases hcheck : target.checkUris with
  | ok =>
      exact absurd (checkUris_eq_ok_iff.mp hcheck uri hmem) hill
  | error error =>
      obtain ⟨other, hother, herror⟩ := exists_of_forM_eq_error hcheck
      obtain ⟨fault, rfl⟩ := exists_fault_of_checkUri herror
      exact ⟨other, hother, fault, rfl⟩

/-! ## What a first target is like -/

/-- A first target is a split with usable variants, or an address that is there. -/
theorem first?_cases {uri : Option String} {metadata : Option Metadata}
    {target : Target} (hfirst : first? uri metadata = some target) :
    (∃ found, metadata = some found ∧ found.usable ≠ [] ∧
      target = weighted (found.usable.map TrafficSplit.variant)) ∨
    ∃ text address, presentText? text = some address ∧ target = fixed address := by
  obtain ⟨named, hnamed, rfl⟩ := List.exists_of_findSome?_eq_some hfirst
  simp only [List.mem_cons, List.not_mem_nil, or_false] at hnamed
  rcases hnamed with hsplits | hactive | hplain
  · obtain ⟨found, rfl, hfound⟩ := Option.bind_eq_some_iff.mp hsplits.symm
    rw [ofSplits?] at hfound
    split at hfound
    next => simp at hfound
    next hsome => exact Or.inl ⟨found, rfl, hsome, (Option.some.inj hfound).symm⟩
  · obtain ⟨address, haddress, rfl⟩ := Option.map_eq_some_iff.mp hactive.symm
    obtain ⟨found, -, hfound⟩ := Option.bind_eq_some_iff.mp haddress
    obtain ⟨deployment, -, hpresent⟩ := Option.bind_eq_some_iff.mp hfound
    exact Or.inr ⟨_, address, hpresent, rfl⟩
  · obtain ⟨address, hpresent, rfl⟩ := Option.map_eq_some_iff.mp hplain.symm
    exact Or.inr ⟨uri, address, hpresent, rfl⟩

theorem trim_of_mem_uris {uri : Option String} {metadata : Option Metadata}
    {target : Target} (hfirst : first? uri metadata = some target)
    {address : String} (hmem : address ∈ target.uris) :
    Text.trim address = address := by
  rcases first?_cases hfirst with ⟨found, -, -, rfl⟩ | ⟨text, found, hpresent, rfl⟩
  · obtain ⟨split, -, rfl⟩ : ∃ split ∈ found.usable, Text.trim split.uri = address := by
      simpa [uris, TrafficSplit.variant] using hmem
    exact Text.trim_trim split.uri
  · obtain rfl : address = found := by simpa [uris] using hmem
    exact trim_of_presentText? hpresent

theorem weightSum_eq (variants : List Variant) :
    weightSum variants = (variants.map Variant.weight).sum := by
  induction variants with
  | nil => rfl
  | cons variant variants ih => rw [weightSum, ih, List.map_cons, List.sum_cons]

/-- The usable splits weigh no more than all. -/
theorem weightSum_usable_le (metadata : Metadata) :
    weightSum (metadata.usable.map TrafficSplit.variant) ≤ metadata.weight := by
  have hweights : (metadata.usable.map TrafficSplit.variant).map Variant.weight =
      metadata.usable.map TrafficSplit.weight := List.map_map
  rw [weightSum_eq, hweights]
  exact ((List.filter_sublist).map _).sum_le_sum fun _ _ => Nat.zero_le _

theorem weights_of_first? {uri : Option String} {metadata : Metadata}
    {variants : List Variant} (hweight : metadata.weight ≤ 100)
    (hfirst : first? uri (some metadata) = some (weighted variants)) :
    (∀ variant ∈ variants, 0 < variant.weight) ∧
      1 ≤ weightSum variants ∧ weightSum variants ≤ 100 := by
  obtain ⟨found, hfound, hsome, hsplit⟩ | ⟨_, _, -, hfixed⟩ := first?_cases hfirst
  · obtain rfl := Option.some.inj hfound
    obtain rfl := weighted.inj hsplit
    have hpositive : ∀ variant ∈ metadata.usable.map TrafficSplit.variant,
        0 < variant.weight := by
      intro variant hvariant
      obtain ⟨split, hsplit, rfl⟩ := List.mem_map.mp hvariant
      have husable := (List.mem_filter.mp hsplit).2
      simp only [Bool.and_eq_true, decide_eq_true_eq] at husable
      exact husable.1
    refine ⟨hpositive, ?_, (weightSum_usable_le metadata).trans hweight⟩
    exact weightSum_pos ⟨by simpa using hsome, hpositive⟩
  · simp at hfixed

end Target

/-- The weights of a split that a row leads to are positive and sum to a number from
one to a hundred. -/
theorem Row.Bears.weights_of_first? {row : Row} {metadata : Option Metadata}
    (hbears : row.Bears metadata) {uri : Option String} {variants : List Variant}
    (hfirst : Target.first? uri metadata = some (.weighted variants)) :
    (∀ variant ∈ variants, 0 < variant.weight) ∧
      1 ≤ Target.weightSum variants ∧ Target.weightSum variants ≤ 100 := by
  cases hbears with
  | nothing => simp [Target.first?, Option.map_eq_some_iff] at hfirst
  | document _ _ _ hweight => exact Target.weights_of_first? hweight hfirst

/-! ## What comes of a row -/

/-- The definition of a row with entries and metadata. -/
def Row.complete (row : Row) (predicates filters : List Entry)
    (metadata : Option Metadata) : Definition where
  id := row.id
  predicates := Definition.withPathPattern (presentText? row.pathPattern) predicates
  filters := filters
  uri := presentText? row.uri
  pathPattern := presentText? row.pathPattern
  enabled := row.enabled
  version := row.version
  createdAt := row.createdAt
  updatedAt := row.updatedAt
  metadata := metadata
  rawMetadata :=
    match row.metadata with
    | some .null => none
    | other => other

theorem Definition.ofRow_eq {row : Row} {predicates filters : List Entry}
    (hpredicates : Entry.listOfJson .predicate row.predicates = .ok predicates)
    (hfilters : Entry.listOfJson .filter row.filters = .ok filters) :
    ofRow row = row.readMetadata.map (row.complete predicates filters) := by
  unfold Row.complete
  simp only [ofRow, hpredicates, hfilters, Row.readMetadata]
  cases row.metadata with
  | none => rfl
  | some document => cases Metadata.ofJson document <;> rfl

theorem Resolved.ofDefinition_eq [Net.UrlParser] [Regex.Engine] {definition : Definition}
    {predicates : List Predicate} {filters : List Filter}
    (hpredicates : definition.predicates.mapM Predicate.compile = .ok predicates)
    (hfilters : definition.filters.mapM Filter.compile = .ok filters) :
    ofDefinition definition =
      match Target.ofDefinition? definition with
      | none => .ok none
      | some target => target.checkUris >>= fun _ => .ok (some
          ⟨definition, target, predicates, filters,
            Attributes.ofMetadata definition.rawMetadata⟩) := by
  simp only [ofDefinition, hpredicates, hfilters]
  rfl

namespace Row

section Compiles

variable [Net.UrlParser] [Regex.Engine] {row : Row} {predicates : List Predicate}
  {filters : List Filter} (hcompiles : row.Compiles predicates filters)
include hcompiles

/-- With metadata of its own a row comes to what its first target comes to. -/
theorem Compiles.ofRow_eq {metadata : Option Metadata} (hbears : row.Bears metadata) :
    ∃ definition, definition.metadata = metadata ∧ Resolved.ofRow row =
      match Target.first? row.uri metadata with
      | none => .ok none
      | some target => target.checkUris >>= fun _ => .ok (some
          ⟨definition, target, predicates, filters,
            Attributes.ofMetadata definition.rawMetadata⟩) := by
  obtain ⟨⟨entries, hentries, hpredicates⟩, ⟨edits, hedits, hfilters⟩⟩ := hcompiles
  exists row.complete entries edits metadata
  apply And.intro rfl
  calc
    Resolved.ofRow row = Resolved.ofDefinition (row.complete entries edits metadata) := by
      rw [Resolved.ofRow, Definition.ofRow_eq hentries hedits, hbears.readMetadata]
      rfl
    _ = _ := Resolved.ofDefinition_eq hpredicates hfilters
    _ = _ := by
      rw [Target.ofDefinition?_eq rfl]
      rfl

theorem Compiles.ofRow_of_not_bears (hnone : ∀ metadata, ¬ row.Bears metadata) :
    ∃ fault, Resolved.ofRow row = .error (.invalidMetadata fault) := by
  obtain ⟨⟨entries, hentries, -⟩, ⟨edits, hedits, -⟩⟩ := hcompiles
  obtain ⟨fault, hfault⟩ := Row.readMetadata_of_not_bears hnone
  exists fault
  rw [Resolved.ofRow, Definition.ofRow_eq hentries hedits, hfault]
  rfl

/-- Metadata that the row has is never what it is refused for. -/
theorem Compiles.not_invalidMetadata {metadata : Option Metadata}
    (hbears : row.Bears metadata) {fault : MetadataFault} :
    Resolved.ofRow row ≠ .error (.invalidMetadata fault) := by
  intro hrefused
  obtain ⟨definition, -, hrow⟩ := hcompiles.ofRow_eq hbears
  rw [hrefused] at hrow
  cases hfirst : Target.first? row.uri metadata with
  | none => simp [hfirst] at hrow
  | some target =>
      cases hcheck : target.checkUris with
      | ok =>
          simp only [hfirst, hcheck] at hrow
          cases hrow
      | error error =>
          obtain ⟨uri, -, herror⟩ := exists_of_forM_eq_error hcheck
          obtain ⟨_, rfl⟩ := Target.exists_fault_of_checkUri herror
          simp only [hfirst, hcheck] at hrow
          cases hrow

end Compiles

/-- Two of the three splits cannot be used, and the third hides both the active
deployment and the plain address. -/
def crowdedRow : Row :=
  { id := "crowded"
    pathPattern := some "/orders/**"
    filters := .array [.string "StripPrefix=1"]
    uri := some "http://plain:80"
    metadata := some <| .object
      [("blueGreen", .object
        [("active", .string "green"), ("greenUri", .string "http://green:80")]),
        ("trafficSplits", .array
          [.object [("variantId", .string "off"), ("weight", .ofNat 0),
              ("uri", .string "http://off:80")],
            .object [("variantId", .string "blank"), ("weight", .ofNat 60),
              ("uri", .string "  ")],
            .object [("variantId", .string "on"), ("weight", .ofNat 40),
              ("uri", .string " lb://orders ")]])] }

def crowdedMetadata : Metadata where
  blueGreen := some ⟨.green, none, some "http://green:80"⟩
  trafficSplits :=
    [⟨"off", 0, "http://off:80"⟩, ⟨"blank", 60, "  "⟩, ⟨"on", 40, " lb://orders "⟩]

end Row

end EdgeGateway.Route
