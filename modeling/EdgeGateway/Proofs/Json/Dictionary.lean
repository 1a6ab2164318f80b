import EdgeGateway.Json.Basic
import Mathlib.Data.List.Induction
import Mathlib.Data.List.Nodup
import Mathlib.Data.String.Basic

/-!
# Dictionaries

A dictionary has its names in ascending order, so it has each of them once.  Pairs
are put into it one after the other, and the last pair of a name stays.  Sorting the
members of a document makes dictionaries of all its objects.
-/

namespace EdgeGateway.Json

/-- What holds of a document may be used for the items of an array and for the values
of an object. -/
@[elab_as_elim]
theorem documentInduction {motive : Json → Prop} (null : motive Json.null)
    (bool : ∀ value, motive (Json.bool value)) (number : ∀ value, motive (Json.number value))
    (string : ∀ text, motive (Json.string text))
    (array : ∀ items, (∀ item ∈ items, motive item) → motive (Json.array items))
    (object : ∀ members, (∀ member ∈ members, motive member.2) → motive (Json.object members))
    (document : Json) : motive document :=
  @Json.rec motive (fun items => ∀ item ∈ items, motive item)
    (fun members => ∀ member ∈ members, motive member.2) (fun member => motive member.2)
    null bool number string array object
    (List.forall_mem_nil _) (fun _ _ hitem hitems => List.forall_mem_cons.mpr ⟨hitem, hitems⟩)
    (List.forall_mem_nil _) (fun _ _ hvalue hvalues => List.forall_mem_cons.mpr ⟨hvalue, hvalues⟩)
    (fun _ _ hvalue => hvalue) document

/-! ## Pairs in the order of their names -/

section Pairs

variable {Value : Type} {members : List (String × Value)}

/-- The names ascend. -/
def Ascending (members : List (String × Value)) : Prop :=
  (members.map Prod.fst).Pairwise (· < ·)

theorem names_insertMember {key name : String} {value : Value} :
    key ∈ (insertMember name value members).map Prod.fst ↔
      key = name ∨ key ∈ members.map Prod.fst := by
  induction members with
  | nil => simp [insertMember]
  | cons member members ih =>
      rw [insertMember]
      split
      next hsame => simp [hsame]
      next =>
        split
        next => simp
        next => simp only [List.map_cons, List.mem_cons, ih, or_left_comm]

theorem ascending_insertMember (hascending : Ascending members) (name : String)
    (value : Value) : Ascending (insertMember name value members) := by
  induction members with
  | nil => exact List.pairwise_singleton _ _
  | cons member members ih =>
      obtain ⟨hfirst, hrest⟩ := List.pairwise_cons.mp hascending
      rw [insertMember]
      split
      next hsame =>
        subst hsame
        exact List.pairwise_cons.mpr ⟨hfirst, hrest⟩
      next hother =>
        split
        next hless =>
          apply List.pairwise_cons.mpr
          refine ⟨List.forall_mem_cons.mpr ⟨hless, fun later hlater => ?_⟩, hascending⟩
          exact lt_trans hless (hfirst later hlater)
        next hnotless =>
          apply List.pairwise_cons.mpr
          refine ⟨fun later hlater => ?_, ih hrest⟩
          rcases names_insertMember.mp hlater with rfl | hlater
          · exact lt_of_le_of_ne (not_lt.mp hnotless) (Ne.symm hother)
          · exact hfirst later hlater

theorem mem_insertMember (hascending : Ascending members) {name : String} {value : Value}
    {member : String × Value} :
    member ∈ insertMember name value members ↔
      member = (name, value) ∨ member ∈ members ∧ member.1 ≠ name := by
  induction members with
  | nil => simp [insertMember]
  | cons known members ih =>
      obtain ⟨hfirst, hrest⟩ := List.pairwise_cons.mp hascending
      have hlater : ∀ later ∈ members, known.1 < later.1 := fun later hmem =>
        hfirst later.1 (List.mem_map_of_mem hmem)
      rw [insertMember]
      split
      next hsame => grind
      next hother =>
        split
        next hless => grind
        next =>
          have hkept := ih hrest
          grind

theorem sortPairs_concat (pairs : List (String × Value)) (pair : String × Value) :
    sortPairs (pairs ++ [pair]) = insertMember pair.1 pair.2 (sortPairs pairs) := by
  rw [sortPairs, List.foldl_append]
  rfl

theorem ascending_sortPairs (pairs : List (String × Value)) :
    Ascending (sortPairs pairs) := by
  induction pairs using List.reverseRecOn with
  | nil => exact .nil
  | append_singleton pairs pair ih =>
      rw [sortPairs_concat]
      exact ascending_insertMember ih pair.1 pair.2

/-- The last pair of each name stays. -/
theorem mem_sortPairs_iff {pairs : List (String × Value)} {pair : String × Value} :
    pair ∈ sortPairs pairs ↔ (pairs.filter (·.1 = pair.1)).getLast? = some pair := by
  induction pairs using List.reverseRecOn with
  | nil => simp [sortPairs]
  | append_singleton pairs last ih =>
      obtain ⟨name, value⟩ := last
      rw [sortPairs_concat, mem_insertMember (ascending_sortPairs pairs), ih,
        List.filter_append]
      by_cases hsame : name = pair.1
      · simp [hsame, eq_comm]
      · have hother : pair ≠ (name, value) := fun h => hsame (congrArg Prod.fst h).symm
        simp [hsame, hother, Ne.symm hsame]

theorem mem_of_mem_sortPairs {pairs : List (String × Value)} {pair : String × Value}
    (hpair : pair ∈ sortPairs pairs) : pair ∈ pairs :=
  List.mem_of_mem_filter (List.mem_of_getLast? (mem_sortPairs_iff.mp hpair))

theorem names_sortPairs {pairs : List (String × Value)} {key : String} :
    key ∈ (sortPairs pairs).map Prod.fst ↔ key ∈ pairs.map Prod.fst := by
  induction pairs using List.reverseRecOn with
  | nil => simp [sortPairs]
  | append_singleton pairs last ih =>
      rw [sortPairs_concat, names_insertMember, ih]
      simp [or_comm]

end Pairs

/-! ## The objects of a document -/

mutual

/-- Whether the names of every object in a document are as they should be. -/
def everyObject (condition : List String → Bool) : Json → Bool
  | array items => everyItem condition items
  | object members =>
      condition (members.map Prod.fst) && everyValue condition members
  | _ => true

def everyItem (condition : List String → Bool) : List Json → Bool
  | [] => true
  | item :: items => everyObject condition item && everyItem condition items

def everyValue (condition : List String → Bool) : List (String × Json) → Bool
  | [] => true
  | (_, value) :: members => everyObject condition value && everyValue condition members

end

/-- Every object of the document is a dictionary. -/
def IsDictionary (document : Json) : Prop :=
  document.everyObject fun names => decide (names.Pairwise (· < ·))

/-- No object of the document has an empty name. -/
def IsNamed (document : Json) : Prop :=
  document.everyObject fun names => decide ("" ∉ names)

section Objects

variable {condition : List String → Bool}

theorem everyObject_array {items : List Json} :
    (array items).everyObject condition ↔ ∀ item ∈ items, item.everyObject condition := by
  rw [everyObject]
  induction items with
  | nil => simp [everyItem]
  | cons item items ih => simp only [everyItem, Bool.and_eq_true, ih, List.forall_mem_cons]

theorem everyObject_object {members : List (String × Json)} :
    (object members).everyObject condition ↔
      condition (members.map Prod.fst) ∧
        ∀ member ∈ members, member.2.everyObject condition := by
  rw [everyObject, Bool.and_eq_true]
  apply and_congr_right'
  induction members with
  | nil => simp [everyValue]
  | cons member members ih =>
      simp only [everyValue, Bool.and_eq_true, ih, List.forall_mem_cons]

end Objects

theorem isDictionary_object {members : List (String × Json)} :
    (object members).IsDictionary ↔
      Ascending members ∧ ∀ member ∈ members, member.2.IsDictionary :=
  everyObject_object.trans (and_congr_left' decide_eq_true_iff)

theorem isNamed_object {members : List (String × Json)} :
    (object members).IsNamed ↔
      "" ∉ members.map Prod.fst ∧ ∀ member ∈ members, member.2.IsNamed :=
  everyObject_object.trans (and_congr_left' decide_eq_true_iff)

theorem sortItems_eq_map (items : List Json) : sortItems items = items.map sortMembers := by
  induction items with
  | nil => rfl
  | cons item items ih => rw [sortItems, ih, List.map_cons]

theorem sortMemberValues_eq_map (members : List (String × Json)) :
    sortMemberValues members =
      members.map fun member => (member.1, member.2.sortMembers) := by
  induction members with
  | nil => rfl
  | cons member members ih => rw [sortMemberValues, ih, List.map_cons]

theorem isDictionary_sortMembers (document : Json) : document.sortMembers.IsDictionary := by
  induction document using documentInduction with
  | null => rfl
  | bool value => rfl
  | number value => rfl
  | string text => rfl
  | array items ih =>
      rw [sortMembers, sortItems_eq_map]
      refine everyObject_array.mpr fun sorted hsorted => ?_
      obtain ⟨item, hitem, rfl⟩ := List.mem_map.mp hsorted
      exact ih item hitem
  | object members ih =>
      rw [sortMembers, sortMemberValues_eq_map]
      refine isDictionary_object.mpr ⟨ascending_sortPairs _, fun sorted hsorted => ?_⟩
      obtain ⟨member, hmember, rfl⟩ := List.mem_map.mp (mem_of_mem_sortPairs hsorted)
      exact ih member hmember

/-- The member of a dictionary is found by its name. -/
theorem member?_eq_some_iff {members : List (String × Json)} (hascending : Ascending members)
    {name : String} {value : Json} :
    (object members).member? name = some value ↔ (name, value) ∈ members := by
  have hfind : (object members).member? name =
      (members.reverse.find? fun member => member.1 = name).map Prod.snd := rfl
  rw [hfind, Option.map_eq_some_iff]
  constructor
  · rintro ⟨member, hfound, rfl⟩
    obtain rfl : member.1 = name := by simpa using List.find?_some hfound
    exact List.mem_reverse.mp (List.mem_of_find?_eq_some hfound)
  · intro hmember
    have hsome : (members.reverse.find? fun member => member.1 = name).isSome :=
      List.find?_isSome.mpr ⟨(name, value), List.mem_reverse.mpr hmember, by simp⟩
    obtain ⟨found, hfound⟩ := Option.isSome_iff_exists.mp hsome
    have hsame : found.1 = name := by simpa using List.find?_some hfound
    have hmem := List.mem_reverse.mp (List.mem_of_find?_eq_some hfound)
    obtain rfl := List.inj_on_of_nodup_map hascending.nodup hmem hmember hsame
    exact ⟨_, hfound, rfl⟩

end EdgeGateway.Json
