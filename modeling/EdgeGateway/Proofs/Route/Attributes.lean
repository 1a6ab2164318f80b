import EdgeGateway.Proofs.Attempt
import EdgeGateway.Proofs.Document.Fields
import EdgeGateway.Proofs.Json.Leaves
import EdgeGateway.Proofs.Route.Selection
import EdgeGateway.Proofs.Text.Pieces
import EdgeGateway.Route.Resolved

/-!
# Attributes

The attributes of a route are collected scalar by scalar, so they come of the list of
leaves of its metadata.  A path that has no empty name is written with its steps
between dots.  Several paths may be written alike, since a name may have dots of its
own, and then the last leaf stays.
-/

namespace EdgeGateway.Route

open Json (Step)

namespace Attributes

/-- The key under which the leaf at the end of a path is collected. -/
def keyOf (path : List Step) (parent : String) : String :=
  path.foldl (fun parent step => childPath parent step.text) parent

/-! ## Collecting leaf by leaf -/

theorem collectItems_eq_foldl (parent : String) (position : Nat) (items : List Json)
    (found : List (String × String)) :
    collectItems parent position items found =
      (items.zipIdx position).foldl
        (fun found item => collect (childPath parent (Text.decimal item.2)) item.1 found)
        found := by
  induction items generalizing position found with
  | nil => rfl
  | cons item items ih => rw [collectItems, ih, List.zipIdx_cons, List.foldl_cons]

theorem collectMembers_eq_foldl (parent : String) (members : List (String × Json))
    (found : List (String × String)) :
    collectMembers parent members found =
      members.foldl
        (fun found member => collect (childPath parent member.1) member.2 found) found := by
  induction members generalizing found with
  | nil => rfl
  | cons member members ih => rw [collectMembers, ih, List.foldl_cons]

/-- A value is put in if it is a scalar, and then what is below it is collected. -/
theorem collect_eq_foldl_children (parent : String) (value : Json)
    (found : List (String × String)) :
    collect parent value found =
      value.children.foldl
        (fun found child => collect (childPath parent child.1.text) child.2 found)
        (value.scalarText?.elim found fun text => Json.insertMember parent text found) := by
  cases value with
  | array items => rw [collect, collectItems_eq_foldl, Json.children, List.foldl_map]; rfl
  | object members => rw [collect, collectMembers_eq_foldl, Json.children, List.foldl_map]; rfl
  | null => rfl
  | bool flag => cases flag <;> rfl
  | number number =>
      have hwrite : (Json.number number).write = number.text := String.ofList_toList
      rw [collect, ← hwrite]
      rfl
  | string text => rfl

/-- Whatever has been found before, collecting is one pass over the leaves. -/
theorem collect_eq_foldl_leaves (parent : String) (value : Json)
    (found : List (String × String)) :
    collect parent value found =
      value.leaves.foldl
        (fun found leaf => Json.insertMember (keyOf leaf.1 parent) leaf.2 found) found := by
  induction value using Json.childInduction generalizing parent found with
  | step value ih =>
      rw [collect_eq_foldl_children, Json.leaves_eq, List.foldl_append, List.foldl_flatMap]
      have hscalar : (value.scalarText?.toList.map fun text => (([] : List Step), text)).foldl
          (fun found leaf => Json.insertMember (keyOf leaf.1 parent) leaf.2 found) found =
            value.scalarText?.elim found fun text => Json.insertMember parent text found := by
        cases value.scalarText? <;> rfl
      rw [hscalar]
      apply List.foldl_ext
      intro found child hchild
      rw [ih child hchild, Json.leavesVia, List.foldl_map]
      rfl

theorem ofMetadata_eq (document : Json) :
    ofMetadata (some document) =
      Json.sortPairs (document.leaves.map fun leaf => (keyOf leaf.1 "", leaf.2)) := by
  rw [ofMetadata, collect_eq_foldl_leaves, Json.sortPairs, List.foldl_map]

/-! ## Keys -/

theorem join_cons_cons (first second : String) (rest : List String) :
    Text.join "." (first :: second :: rest) =
      Text.join "." ((first ++ "." ++ second) :: rest) := by
  rw [Text.join, Text.join, List.map_cons, List.map_cons, List.map_cons, String.toList_append,
    Text.glue_append_cons, String.toList_append]
  rfl

/-- Behind a parent that is not empty no dot is left out. -/
theorem foldl_childPath {parent : String} (hparent : parent ≠ "") (names : List String) :
    names.foldl childPath parent = Text.join "." (parent :: names) := by
  induction names generalizing parent with
  | nil => exact String.ofList_toList.symm
  | cons name names ih =>
      have hchild : parent ++ "." ++ name ≠ "" := by simp [hparent]
      rw [List.foldl_cons, childPath, if_neg hparent, ih hchild, join_cons_cons]

/-- Without empty names the key is the dotted path. -/
theorem keyOf_eq_dotted {path : List Step} (hpath : ∀ step ∈ path, step.text ≠ "") :
    keyOf path "" = Json.dotted path := by
  cases path with
  | nil => rfl
  | cons step path =>
      have hstep := hpath step List.mem_cons_self
      rw [keyOf, List.foldl_cons, childPath, if_pos rfl, Json.dotted, List.map_cons,
        ← foldl_childPath hstep, List.foldl_map]

theorem ofMetadata_eq_of_isNamed {document : Json} (hnamed : document.IsNamed) :
    ofMetadata (some document) =
      Json.sortPairs (document.leaves.map fun leaf => (Json.dotted leaf.1, leaf.2)) := by
  rw [ofMetadata_eq]
  congr 1
  apply List.map_congr_left
  intro leaf hleaf
  rw [keyOf_eq_dotted (hnamed.text_ne_empty_of_mem_leaves hleaf)]

theorem mem_ofMetadata_iff {document : Json} (hdictionary : document.IsDictionary)
    (hnamed : document.IsNamed) {key text : String} :
    (key, text) ∈ ofMetadata (some document) ↔
      ∃ path, document.IsLastLeaf key path text := by
  rw [ofMetadata_eq_of_isNamed hnamed, Json.mem_sortPairs_iff, List.filter_map,
    List.getLast?_map, Option.map_eq_some_iff]
  simp only [← Json.getLast?_leaves_eq_some_iff hdictionary]
  constructor
  · rintro ⟨⟨path, found⟩, hlast, hpair⟩
    obtain ⟨-, rfl⟩ := Prod.mk.inj hpair
    exact ⟨path, hlast⟩
  · rintro ⟨path, hlast⟩
    refine ⟨(path, text), hlast, ?_⟩
    rw [((Json.getLast?_leaves_eq_some_iff hdictionary).mp hlast).dotted]

end Attributes

/-! ## The attributes of a route -/

/-- The metadata of a stored row is a dictionary. -/
theorem Row.isDictionary_of_decode {document : Document} {row : Row} {metadata : Json}
    (hdecodes : decode document = .ok row) (hmetadata : row.metadata = some metadata) :
    metadata.IsDictionary := by
  simp only [decode, bind_eq_ok_iff, pure_eq_ok_iff] at hdecodes
  obtain ⟨fields, -, id, -, predicates, -, filters, -, uri, -, pattern, -, found, hfound,
    enabled, -, version, -, created, -, updated, -, rfl⟩ := hdecodes
  obtain rfl : found = some metadata := hmetadata
  refine Document.Fields.of_optional hfound fun stored sorted hstored => ?_
  obtain rfl := Except.ok.inj hstored
  exact Json.isDictionary_sortMembers _

theorem Definition.rawMetadata_of_ofRow {row : Row} {definition : Definition}
    {document : Json} (hconverts : ofRow row = .ok definition)
    (hmetadata : row.metadata = some document) (hsome : document ≠ .null) :
    definition.rawMetadata = some document := by
  rw [ofRow, hmetadata] at hconverts
  obtain ⟨predicates, -, hconverts⟩ := bind_eq_ok_iff.mp hconverts
  obtain ⟨filters, -, hconverts⟩ := bind_eq_ok_iff.mp hconverts
  obtain ⟨metadata, -, hdefinition⟩ := bind_eq_ok_iff.mp hconverts
  obtain rfl := pure_eq_ok_iff.mp hdefinition
  cases document with
  | null => exact absurd rfl hsome
  | bool | number | string | array | object => rfl

theorem Resolved.attributes_of_ofDefinition {definition : Definition} {route : Resolved}
    (hresolves : ofDefinition definition = .ok (some route)) :
    route.attributes = Attributes.ofMetadata definition.rawMetadata := by
  obtain ⟨predicates, -, hresolves⟩ := bind_eq_ok_iff.mp hresolves
  obtain ⟨filters, -, hresolves⟩ := bind_eq_ok_iff.mp hresolves
  split at hresolves
  next => simp [pure, Except.pure] at hresolves
  next =>
    obtain ⟨-, -, hroute⟩ := bind_eq_ok_iff.mp hresolves
    obtain rfl := Option.some.inj (pure_eq_ok_iff.mp hroute)
    rfl

/-- The metadata of a route has a key for each of its leaves, the dotted path, and no
other key.  Where leaves share a dotted path, the text is that of the last of them.
So whatever is no leaf makes no difference: documents with the same leaves have the
same attributes. -/
theorem attributes_are_last_leaves {definition : Definition} {route : Resolved}
    {document : Json} (hresolves : Resolved.ofDefinition definition = .ok (some route))
    (hraw : definition.rawMetadata = some document)
    (hdictionary : document.IsDictionary) (hnamed : document.IsNamed) :
    Json.Ascending route.attributes ∧
      (∀ key, key ∈ route.attributes.map Prod.fst ↔
        ∃ path text, document.leaf? path = some text ∧ Json.dotted path = key) ∧
      (∀ key text, (key, text) ∈ route.attributes ↔
        ∃ path, document.IsLastLeaf key path text) ∧
      ∀ other : Json, other.IsDictionary → other.leaf? = document.leaf? →
        Attributes.ofMetadata (some other) = route.attributes := by
  have hattributes := Resolved.attributes_of_ofDefinition hresolves
  rw [hraw] at hattributes
  have hsorted := hattributes.trans (Attributes.ofMetadata_eq_of_isNamed hnamed)
  refine ⟨?_, fun key => ?_, fun key text => ?_, fun other hother hleaves => ?_⟩
  · rw [hsorted]
    exact Json.ascending_sortPairs _
  · rw [hsorted, Json.names_sortPairs]
    simp [Json.mem_leaves_iff hdictionary]
  · rw [hattributes, Attributes.mem_ofMetadata_iff hdictionary hnamed]
  · rw [hattributes, Attributes.ofMetadata_eq, Attributes.ofMetadata_eq,
      (Json.leaves_eq_leaves_iff hother hdictionary).mpr hleaves]

/-- Two leaves are written `team.name`, and behind `team.lead` there is none. -/
def labels : Json :=
  .object
    [("size", .ofNat 3),
     ("tags", .array [.string "pci", .array [], .bool true]),
     ("team", .object [("lead", .null), ("name", .string "billing")]),
     ("team.name", .string "pay")]

/-- The same leaves. -/
def plainLabels : Json :=
  .object
    [("size", .ofNat 3),
     ("tags", .array [.string "pci", .null, .bool true]),
     ("team", .object [("name", .string "billing")]),
     ("team.name", .string "pay")]

def labelledRow : Row :=
  { id := "billing"
    uri := some "http://billing:8080"
    metadata := some labels }

theorem later_label_stays :
    ∃ route, Resolved.ofRow labelledRow = .ok (some route) ∧
      ("team.name", "pay") ∈ route.attributes ∧
      "team.lead" ∉ route.attributes.map Prod.fst ∧
      Attributes.ofMetadata (some plainLabels) = route.attributes := by
  have hdictionary : labels.IsDictionary := by
    unfold Json.IsDictionary
    decide +kernel
  have hnamed : labels.IsNamed := by
    unfold Json.IsNamed
    decide +kernel
  have hplain : plainLabels.IsDictionary := by
    unfold Json.IsDictionary
    decide +kernel
  obtain ⟨found, hfound, hsome⟩ : ∃ found, Resolved.ofRow labelledRow = .ok found ∧
      found.isSome := exists_ok_of_any (by decide +kernel)
  obtain ⟨route, rfl⟩ := Option.isSome_iff_exists.mp hsome
  obtain ⟨hconverts, hresolves⟩ := Resolved.ofRow_ok_iff.mp hfound
  have hraw := Definition.rawMetadata_of_ofRow hconverts rfl nofun
  obtain ⟨-, hkeys, hlast, hsame⟩ :=
    attributes_are_last_leaves hresolves hraw hdictionary hnamed
  refine ⟨route, hfound, ?_, ?_, ?_⟩
  · apply (hlast _ _).mpr
    exact ⟨[.name "team.name"],
      (Json.getLast?_leaves_eq_some_iff hdictionary).mp (by decide +kernel)⟩
  · rw [hkeys]
    rintro ⟨path, text, hleaf, hdotted⟩
    have hnone : ∀ leaf ∈ labels.leaves, Json.dotted leaf.1 ≠ "team.lead" := by
      decide +kernel
    exact hnone _ ((Json.mem_leaves_iff hdictionary).mpr hleaf) hdotted
  · apply hsame plainLabels hplain
    exact (Json.leaves_eq_leaves_iff hplain hdictionary).mp (by decide +kernel)

end EdgeGateway.Route
