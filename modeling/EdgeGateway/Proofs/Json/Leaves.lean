import EdgeGateway.Json.Writer
import EdgeGateway.Proofs.Json.Dictionary
import EdgeGateway.Text.Pieces
import Mathlib.Data.List.Sort

/-!
# Leaves

A path leads down from a document, into an object by a name and into an array by a
position.  At its end is a leaf if there is a scalar other than null.  The leaves of
a document can be listed on one way through it.  For a dictionary the list has every
leaf once, in the order of the paths.
-/

namespace EdgeGateway.Json

/-! ## Paths -/

inductive Step where
  | name (text : String)
  | index (position : Nat)
  deriving Repr, DecidableEq

namespace Step

def text : Step → String
  | name text => text
  | index position => Text.decimal position

/-- Members are in the order of their names, items in that of their positions. -/
def Before : Step → Step → Prop
  | name left, name right => left < right
  | index left, index right => left < right
  | _, _ => False

instance : LT Step := ⟨Before⟩

instance : Std.Asymm (fun left right : Step => left < right) where
  asymm
    | name _, name _, hbefore => lt_asymm (α := String) hbefore
    | index _, index _, hbefore => Nat.lt_asymm hbefore

end Step

/-- Where a step leads. -/
def child? : Json → Step → Option Json
  | document, .name name => document.member? name
  | array items, .index position => items[position]?
  | _, .index _ => none

/-- Where a path leads. -/
def at? (document : Json) : List Step → Option Json
  | [] => some document
  | step :: path => (document.child? step).bind (·.at? path)

/-- The text of a scalar; null has none. -/
def scalarText? : Json → Option String
  | null | array _ | object _ => none
  | string text => some text
  | scalar => some scalar.write

/-- The text of the leaf at the end of a path. -/
def leaf? (document : Json) (path : List Step) : Option String :=
  (document.at? path).bind scalarText?

def dotted (path : List Step) : String :=
  Text.join "." (path.map Step.text)

/-- What is directly below a document. -/
def children : Json → List (Step × Json)
  | array items => items.zipIdx.map fun (item, position) => (.index position, item)
  | object members => members.map fun (name, value) => (.name name, value)
  | _ => []

mutual

/-- The leaves in the order of the document. -/
def leaves : Json → List (List Step × String)
  | array items => itemLeaves 0 items
  | object members => memberLeaves members
  | scalar => scalar.scalarText?.toList.map fun text => ([], text)

def itemLeaves (position : Nat) : List Json → List (List Step × String)
  | [] => []
  | item :: items =>
      item.leaves.map (Prod.map (.index position :: ·) id) ++ itemLeaves (position + 1) items

def memberLeaves : List (String × Json) → List (List Step × String)
  | [] => []
  | (name, value) :: members =>
      value.leaves.map (Prod.map (.name name :: ·) id) ++ memberLeaves members

end

/-! ## Going down -/

/-- What holds of a document may be used for everything directly below it. -/
@[elab_as_elim]
theorem childInduction {motive : Json → Prop}
    (step : ∀ document, (∀ child ∈ document.children, motive child.2) → motive document)
    (document : Json) : motive document := by
  induction document using documentInduction with
  | null => exact step _ (List.forall_mem_nil _)
  | bool value => exact step _ (List.forall_mem_nil _)
  | number value => exact step _ (List.forall_mem_nil _)
  | string text => exact step _ (List.forall_mem_nil _)
  | array items ih =>
      refine step _ fun child hchild => ?_
      obtain ⟨⟨item, position⟩, hitem, rfl⟩ := List.mem_map.mp hchild
      exact ih item (List.fst_mem_of_mem_zipIdx hitem)
  | object members ih =>
      refine step _ fun child hchild => ?_
      obtain ⟨member, hmember, rfl⟩ := List.mem_map.mp hchild
      exact ih member hmember

section Dictionary

variable {document : Json}

theorem everyObject_of_mem_children {condition : List String → Bool}
    (hevery : document.everyObject condition) {child : Step × Json}
    (hchild : child ∈ document.children) : child.2.everyObject condition := by
  cases document with
  | array items =>
      obtain ⟨⟨item, position⟩, hitem, rfl⟩ := List.mem_map.mp hchild
      exact everyObject_array.mp hevery item (List.fst_mem_of_mem_zipIdx hitem)
  | object members =>
      obtain ⟨member, hmember, rfl⟩ := List.mem_map.mp hchild
      exact (everyObject_object.mp hevery).2 member hmember
  | null | bool | number | string => exact absurd hchild List.not_mem_nil

theorem IsNamed.text_ne_empty_of_mem_children (hnamed : document.IsNamed)
    {child : Step × Json} (hchild : child ∈ document.children) : child.1.text ≠ "" := by
  cases document with
  | array items =>
      obtain ⟨⟨item, position⟩, -, rfl⟩ := List.mem_map.mp hchild
      intro hempty
      exact Nat.toDigits_ne_nil (String.ofList_eq_empty_iff.mp hempty)
  | object members =>
      obtain ⟨member, hmember, rfl⟩ := List.mem_map.mp hchild
      intro (hempty : member.1 = "")
      exact (isNamed_object.mp hnamed).1 (List.mem_map.mpr ⟨member, hmember, hempty⟩)
  | null | bool | number | string => exact absurd hchild List.not_mem_nil

theorem IsDictionary.pairwise_children (hdictionary : document.IsDictionary) :
    document.children.Pairwise fun left right => left.1 < right.1 := by
  cases document with
  | array items =>
      have hpositions : (items.zipIdx.map Prod.snd).Pairwise (· < ·) := by
        rw [List.zipIdx_map_snd]
        exact List.pairwise_lt_range'
      have hitems := List.pairwise_map.mp hpositions
      exact List.pairwise_map.mpr hitems
  | object members =>
      have hmembers := List.pairwise_map.mp (isDictionary_object.mp hdictionary).1
      exact List.pairwise_map.mpr hmembers
  | null | bool | number | string => exact List.Pairwise.nil

theorem IsDictionary.child?_eq_some_iff (hdictionary : document.IsDictionary)
    {step : Step} {child : Json} :
    document.child? step = some child ↔ (step, child) ∈ document.children := by
  cases document with
  | array items =>
      cases step with
      | name text => simp [child?, member?, children]
      | index position =>
          simp [child?, children, List.mk_mem_zipIdx_iff_getElem?]
  | object members =>
      cases step with
      | name text =>
          rw [child?, member?_eq_some_iff (isDictionary_object.mp hdictionary).1]
          simp [children]
      | index position => simp [child?, children]
  | null | bool | number | string => cases step <;> simp [child?, member?, children]

/-! ## The list of leaves -/

theorem itemLeaves_eq_flatMap (position : Nat) (items : List Json) :
    itemLeaves position items = (items.zipIdx position).flatMap fun item =>
      item.1.leaves.map (Prod.map (.index item.2 :: ·) id) := by
  induction items generalizing position with
  | nil => rfl
  | cons item items ih => rw [itemLeaves, ih, List.zipIdx_cons, List.flatMap_cons]

theorem memberLeaves_eq_flatMap (members : List (String × Json)) :
    memberLeaves members = members.flatMap fun member =>
      member.2.leaves.map (Prod.map (.name member.1 :: ·) id) := by
  induction members with
  | nil => rfl
  | cons member members ih => rw [memberLeaves, ih, List.flatMap_cons]

/-- The leaves below a document that one step leads to. -/
def leavesVia (child : Step × Json) : List (List Step × String) :=
  child.2.leaves.map (Prod.map (child.1 :: ·) id)

theorem mem_leavesVia_iff {child : Step × Json} {leaf : List Step × String} :
    leaf ∈ leavesVia child ↔ ∃ path, leaf.1 = child.1 :: path ∧ (path, leaf.2) ∈ child.2.leaves := by
  rw [leavesVia, List.mem_map]
  constructor
  · rintro ⟨⟨path, text⟩, hleaf, rfl⟩
    exact ⟨path, rfl, hleaf⟩
  · rintro ⟨path, hpath, hleaf⟩
    exact ⟨(path, leaf.2), hleaf, Prod.ext hpath.symm rfl⟩

/-- A document is a leaf itself, or its leaves are those below it. -/
theorem leaves_eq (document : Json) :
    document.leaves = document.scalarText?.toList.map (fun text => ([], text)) ++
      document.children.flatMap leavesVia := by
  cases document with
  | array items =>
      rw [leaves, itemLeaves_eq_flatMap, children, List.flatMap_map]
      rfl
  | object members =>
      rw [leaves, memberLeaves_eq_flatMap, children, List.flatMap_map]
      rfl
  | null | bool | number | string => simp [leaves, children]

/-- Leaves are in the order of their paths. -/
def Precedes (left right : List Step × String) : Prop := left.1 < right.1

instance : Std.Asymm Precedes := ⟨fun _ _ => List.lt_asymm⟩

theorem leaf?_cons_eq_some_iff {step : Step} {path : List Step} {text : String} :
    document.leaf? (step :: path) = some text ↔
      ∃ child, document.child? step = some child ∧ child.leaf? path = some text := by
  simp only [leaf?, at?, Option.bind_assoc, Option.bind_eq_some_iff]

theorem mem_leaves_iff (hdictionary : document.IsDictionary) {path : List Step}
    {text : String} : (path, text) ∈ document.leaves ↔ document.leaf? path = some text := by
  induction document using childInduction generalizing path with
  | step document ih =>
      rw [leaves_eq, List.mem_append, List.mem_flatMap]
      cases path with
      | nil => simp [leaf?, at?, mem_leavesVia_iff]
      | cons step path =>
          rw [leaf?_cons_eq_some_iff]
          constructor
          · rintro (hscalar | ⟨child, hchild, hleaf⟩)
            · simp at hscalar
            · obtain ⟨rest, hpath, hleaf⟩ := mem_leavesVia_iff.mp hleaf
              obtain ⟨rfl, rfl⟩ := List.cons.inj hpath
              exact ⟨child.2, hdictionary.child?_eq_some_iff.mpr hchild,
                (ih child hchild (everyObject_of_mem_children hdictionary hchild)).mp hleaf⟩
          · rintro ⟨child, hchild, hleaf⟩
            rw [hdictionary.child?_eq_some_iff] at hchild
            refine Or.inr ⟨(step, child), hchild, mem_leavesVia_iff.mpr ⟨path, rfl, ?_⟩⟩
            exact (ih _ hchild (everyObject_of_mem_children hdictionary hchild)).mpr hleaf

theorem pairwise_leaves (hdictionary : document.IsDictionary) :
    document.leaves.Pairwise Precedes := by
  induction document using childInduction with
  | step document ih =>
      rw [leaves_eq]
      refine List.pairwise_append.mpr ⟨?_, List.pairwise_flatMap.mpr ⟨?_, ?_⟩, ?_⟩
      · cases document.scalarText? <;> simp
      · -- below one child the paths begin with the same step
        intro child hchild
        have hleaves := ih child hchild (everyObject_of_mem_children hdictionary hchild)
        exact List.pairwise_map.mpr (hleaves.imp fun hbefore => List.Lex.cons hbefore)
      · -- below different children the first step decides
        refine hdictionary.pairwise_children.imp fun hbefore left hleft right hright => ?_
        obtain ⟨before, hbeforePath, -⟩ := mem_leavesVia_iff.mp hleft
        obtain ⟨after, hafterPath, -⟩ := mem_leavesVia_iff.mp hright
        rw [Precedes, hbeforePath, hafterPath]
        exact List.Lex.rel hbefore
      · intro scalar hscalar leaf hleaf
        obtain ⟨text, -, rfl⟩ := List.mem_map.mp hscalar
        obtain ⟨child, -, hbelow⟩ := List.mem_flatMap.mp hleaf
        obtain ⟨path, hpath, -⟩ := mem_leavesVia_iff.mp hbelow
        rw [Precedes, hpath]
        exact List.Lex.nil

/-- Dictionaries have the same list of leaves if the same paths lead to leaves. -/
theorem leaves_eq_leaves_iff {other : Json} (hother : other.IsDictionary)
    (hdictionary : document.IsDictionary) :
    other.leaves = document.leaves ↔ other.leaf? = document.leaf? := by
  constructor
  · intro hleaves
    funext path
    apply Option.ext
    intro text
    rw [← mem_leaves_iff hother, ← mem_leaves_iff hdictionary, hleaves]
  · intro hleaf
    refine (pairwise_leaves hother).eq_of_mem_iff (pairwise_leaves hdictionary) ?_
    rintro ⟨path, text⟩
    rw [mem_leaves_iff hother, mem_leaves_iff hdictionary, hleaf]

/-- No step to a leaf is without a text. -/
theorem IsNamed.text_ne_empty_of_mem_leaves (hnamed : document.IsNamed)
    {leaf : List Step × String} (hleaf : leaf ∈ document.leaves) :
    ∀ step ∈ leaf.1, step.text ≠ "" := by
  induction document using childInduction generalizing leaf with
  | step document ih =>
      rw [leaves_eq, List.mem_append] at hleaf
      rcases hleaf with hscalar | hbelow
      · obtain ⟨text, -, rfl⟩ := List.mem_map.mp hscalar
        exact List.forall_mem_nil _
      · obtain ⟨child, hchild, hleaf⟩ := List.mem_flatMap.mp hbelow
        obtain ⟨path, hpath, hrest⟩ := mem_leavesVia_iff.mp hleaf
        rw [hpath]
        exact List.forall_mem_cons.mpr ⟨hnamed.text_ne_empty_of_mem_children hchild,
          ih child hchild (everyObject_of_mem_children hnamed hchild) hrest⟩

/-! ## The last leaf of a dotted path -/

/-- The leaf is behind all others with the same dotted path. -/
structure IsLastLeaf (document : Json) (key : String) (path : List Step) (text : String) :
    Prop where
  leads : document.leaf? path = some text
  dotted : dotted path = key
  last : ∀ other, (document.leaf? other).isSome → Json.dotted other = key →
    other = path ∨ other < path

theorem getLast?_eq_some_iff_of_pairwise {Value : Type} {precedes : Value → Value → Prop}
    [Std.Asymm precedes] {values : List Value} (hordered : values.Pairwise precedes)
    {value : Value} :
    values.getLast? = some value ↔
      value ∈ values ∧ ∀ other ∈ values, other = value ∨ precedes other value := by
  have hlast : ∀ last, values.getLast? = some last →
      last ∈ values ∧ ∀ other ∈ values, other = last ∨ precedes other last := by
    intro last hlast
    obtain ⟨earlier, rfl⟩ := List.getLast?_eq_some_iff.mp hlast
    have hbefore := (List.pairwise_append.mp hordered).2.2
    refine ⟨List.mem_append_right _ (List.mem_singleton_self last), fun other hother => ?_⟩
    rcases List.mem_append.mp hother with hother | hother
    · exact Or.inr (hbefore other hother last (List.mem_singleton_self last))
    · exact Or.inl (List.mem_singleton.mp hother)
  refine ⟨hlast value, fun ⟨hmem, hall⟩ => ?_⟩
  obtain ⟨last, hfound⟩ : ∃ last, values.getLast? = some last :=
    ⟨_, List.getLast?_eq_some_getLast (List.ne_nil_of_mem hmem)⟩
  obtain ⟨hlastmem, hlastall⟩ := hlast last hfound
  rcases hlastall value hmem with rfl | hbefore
  · exact hfound
  · rcases hall last hlastmem with rfl | hafter
    · exact hfound
    · exact absurd hbefore (Std.Asymm.asymm _ _ hafter)

theorem getLast?_leaves_eq_some_iff (hdictionary : document.IsDictionary) {key : String}
    {path : List Step} {text : String} :
    (document.leaves.filter fun leaf => dotted leaf.1 = key).getLast? = some (path, text) ↔
      document.IsLastLeaf key path text := by
  rw [getLast?_eq_some_iff_of_pairwise ((pairwise_leaves hdictionary).filter _)]
  simp only [List.mem_filter, decide_eq_true_eq]
  constructor
  · rintro ⟨⟨hleaf, hdotted⟩, hlast⟩
    have hleads := (mem_leaves_iff hdictionary).mp hleaf
    refine ⟨hleads, hdotted, fun other hother hsame => ?_⟩
    obtain ⟨found, hfound⟩ := Option.isSome_iff_exists.mp hother
    rcases hlast (other, found) ⟨(mem_leaves_iff hdictionary).mpr hfound, hsame⟩ with h | h
    · exact Or.inl (congrArg Prod.fst h)
    · exact Or.inr h
  · rintro ⟨hleads, hdotted, hlast⟩
    refine ⟨⟨(mem_leaves_iff hdictionary).mpr hleads, hdotted⟩, ?_⟩
    rintro ⟨other, found⟩ ⟨hleaf, hsame⟩
    rw [mem_leaves_iff hdictionary] at hleaf
    rcases hlast other (Option.isSome_of_eq_some hleaf) hsame with rfl | hbefore
    · obtain rfl : found = text := Option.some.inj (hleaf.symm.trans hleads)
      exact Or.inl rfl
    · exact Or.inr hbefore

end Dictionary

end EdgeGateway.Json
