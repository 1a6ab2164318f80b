import EdgeGateway.Proofs.Text.Numerals
import EdgeGateway.Proofs.Text.Pieces
import EdgeGateway.Route.Entry
import Mathlib.Data.List.Induction
import Mathlib.Data.List.Perm.Basic
import Mathlib.Data.List.Nodup

/-!
# Arguments of an entry

An entry keeps its arguments by key.  Written under different keys they are all
kept, whatever the order of the keys, so a look-up finds what was written.  The
positional arguments come back in the order of their numbers, which is not the
order of their keys: `_genkey_10` stands before `_genkey_2`.
-/

namespace EdgeGateway.Route

namespace Entry

/-! ## Arguments under different keys -/

/-- An entry with arguments written one after the other. -/
def ofArguments (name : String) (arguments : List (String × String)) : Entry :=
  arguments.foldl (fun entry argument => entry.insert argument.1 argument.2) ⟨name, []⟩

theorem ofArguments_concat (name : String) (arguments : List (String × String))
    (argument : String × String) :
    ofArguments name (arguments ++ [argument]) =
      (ofArguments name arguments).insert argument.1 argument.2 := by
  rw [ofArguments, List.foldl_append]
  rfl

@[simp]
theorem name_ofArguments (name : String) (arguments : List (String × String)) :
    (ofArguments name arguments).name = name := by
  induction arguments using List.reverseRecOn with
  | nil => rfl
  | append_singleton arguments argument ih => rw [ofArguments_concat, insert, ih]

theorem insertMember_perm {key value : String} {members : List (String × String)}
    (hfresh : key ∉ members.map Prod.fst) :
    (Json.insertMember key value members).Perm ((key, value) :: members) := by
  induction members with
  | nil => exact .refl _
  | cons member members ih =>
      obtain ⟨known, other⟩ := member
      obtain ⟨hne, hrest⟩ : key ≠ known ∧ key ∉ members.map Prod.fst := by
        simpa using hfresh
      rw [Json.insertMember, if_neg hne]
      split
      next => exact .refl _
      next => exact ((ih hrest).cons _).trans (.swap _ _ _)

/-- Nothing is lost if no key is used twice. -/
theorem arguments_ofArguments (name : String) {arguments : List (String × String)}
    (hkeys : (arguments.map Prod.fst).Nodup) :
    (ofArguments name arguments).arguments.Perm arguments := by
  induction arguments using List.reverseRecOn with
  | nil => exact .refl _
  | append_singleton arguments argument ih =>
      obtain ⟨key, value⟩ := argument
      rw [List.map_append, List.nodup_append] at hkeys
      obtain ⟨hknown, -, hdisjoint⟩ := hkeys
      have hperm := ih hknown
      have hfresh : key ∉ (ofArguments name arguments).arguments.map Prod.fst := by
        rw [(hperm.map Prod.fst).mem_iff]
        exact fun hkey => hdisjoint key hkey key (by simp) rfl
      rw [ofArguments_concat]
      exact ((insertMember_perm hfresh).trans (hperm.cons _)).trans
        (List.perm_append_singleton _ _).symm

/-- A look-up finds what was written under its key, and nothing else. -/
theorem argument?_ofArguments_iff {name : String} {arguments : List (String × String)}
    (hkeys : (arguments.map Prod.fst).Nodup) {key value : String} :
    (ofArguments name arguments).argument? key = some value ↔ (key, value) ∈ arguments := by
  have hperm := arguments_ofArguments name hkeys
  rw [← hperm.mem_iff, argument?, Option.map_eq_some_iff]
  have hnodup : ((ofArguments name arguments).arguments.map Prod.fst).Nodup :=
    (hperm.map Prod.fst).nodup_iff.mpr hkeys
  generalize (ofArguments name arguments).arguments = kept at hnodup
  constructor
  · rintro ⟨⟨known, found⟩, hfound, rfl⟩
    have hknown : known = key := by simpa using List.find?_some hfound
    exact hknown ▸ List.mem_of_find?_eq_some hfound
  · intro hmem
    have hsome : (kept.find? fun argument => argument.1 = key).isSome = true := by
      rw [List.find?_isSome]
      exact ⟨(key, value), hmem, by simp⟩
    obtain ⟨⟨known, found⟩, hfound⟩ := Option.isSome_iff_exists.mp hsome
    obtain rfl : known = key := by simpa using List.find?_some hfound
    have hsame := List.inj_on_of_nodup_map hnodup (List.mem_of_find?_eq_some hfound) hmem rfl
    exact ⟨(known, found), hfound, congrArg Prod.snd hsame⟩

theorem argument?_ofArguments_eq_none {name : String}
    {arguments : List (String × String)} (hkeys : (arguments.map Prod.fst).Nodup)
    {key : String} (hunused : key ∉ arguments.map Prod.fst) :
    (ofArguments name arguments).argument? key = none := by
  rw [Option.eq_none_iff_forall_ne_some]
  intro value hfound
  exact hunused (List.mem_map.mpr ⟨_, (argument?_ofArguments_iff hkeys).mp hfound, rfl⟩)

/-! ## Positions -/

theorem stripPrefix?_positionalKey (index : Nat) :
    Text.stripPrefix? positionalPrefix (positionalKey index) =
      some (Text.decimal index) := by
  rw [Text.stripPrefix?, positionalKey, String.toList_append, Text.dropPiece?_append,
    Option.map_some, String.ofList_toList]

theorem positionalKey_injective : Function.Injective positionalKey := by
  intro left right hsame
  have hdigits := congrArg (Text.stripPrefix? positionalPrefix) hsame
  rw [stripPrefix?_positionalKey, stripPrefix?_positionalKey] at hdigits
  exact Text.decimal_injective (Option.some.inj hdigits)

theorem position?_positionalKey {index : Nat} (hindex : index ≤ Text.limit64) :
    position? (positionalKey index) = some index := by
  rw [position?, stripPrefix?_positionalKey, Option.bind_some,
    Text.readNatural_decimal hindex]

/-- A key that no position has. -/
def IsNamed (key : String) : Prop :=
  Text.stripPrefix? positionalPrefix key = none

instance : DecidablePred IsNamed := fun _ => inferInstanceAs (Decidable (_ = none))

theorem IsNamed.ne_positionalKey {key : String} (hnamed : IsNamed key) (index : Nat) :
    key ≠ positionalKey index := by
  rintro rfl
  rw [IsNamed, stripPrefix?_positionalKey] at hnamed
  simp at hnamed

theorem IsNamed.position? {key : String} (hnamed : IsNamed key) : position? key = none := by
  rw [Entry.position?, show Text.stripPrefix? positionalPrefix key = none from hnamed]
  rfl

theorem insertByIndex_perm (index : Nat) (value : String) (sorted : List (Nat × String)) :
    (insertByIndex index value sorted).Perm ((index, value) :: sorted) := by
  induction sorted with
  | nil => exact .refl _
  | cons known sorted ih =>
      obtain ⟨other, found⟩ := known
      rw [insertByIndex]
      split
      next => exact .refl _
      next => exact (ih.cons _).trans (.swap _ _ _)

theorem insertByIndex_sorted {index : Nat} {value : String} {sorted : List (Nat × String)}
    (hsorted : sorted.Pairwise (·.1 ≤ ·.1)) :
    (insertByIndex index value sorted).Pairwise (·.1 ≤ ·.1) := by
  induction sorted with
  | nil => exact List.pairwise_singleton _ _
  | cons known sorted ih =>
      obtain ⟨other, found⟩ := known
      obtain ⟨hfirst, hrest⟩ := List.pairwise_cons.mp hsorted
      rw [insertByIndex]
      split
      next hless =>
        refine List.pairwise_cons.mpr ⟨fun entry hentry => ?_, hsorted⟩
        rcases List.mem_cons.mp hentry with rfl | hentry
        · exact hless.le
        · exact hless.le.trans (hfirst entry hentry)
      next hnot =>
        refine List.pairwise_cons.mpr ⟨fun entry hentry => ?_, ih hrest⟩
        rcases List.mem_cons.mp ((insertByIndex_perm _ _ _).mem_iff.mp hentry) with
          rfl | hentry
        · exact Nat.le_of_not_lt hnot
        · exact hfirst entry hentry

theorem foldl_insertByIndex (indexed : List (Nat × String)) :
    let sorted := indexed.foldl (fun sorted (index, value) =>
      insertByIndex index value sorted) []
    sorted.Perm indexed ∧ sorted.Pairwise (·.1 ≤ ·.1) := by
  induction indexed using List.reverseRecOn with
  | nil => exact ⟨.refl _, .nil⟩
  | append_singleton indexed last ih =>
      obtain ⟨index, value⟩ := last
      obtain ⟨hperm, hsorted⟩ := ih
      rw [List.foldl_append]
      refine ⟨?_, insertByIndex_sorted hsorted⟩
      exact ((insertByIndex_perm _ _ _).trans (hperm.cons _)).trans
        (List.perm_append_singleton _ _).symm

/-- The arguments with positions come back in the order of their positions, in
whatever order the keys have put them. -/
theorem positional_eq {entry : Entry} {indexed : List (Nat × String)}
    (hperm : (entry.arguments.filterMap fun (key, value) =>
      (position? key).map fun index => (index, value)).Perm indexed)
    (hindexed : indexed.Pairwise (·.1 < ·.1)) :
    entry.positional = indexed.map Prod.snd := by
  obtain ⟨hsame, hsorted⟩ := foldl_insertByIndex
    (entry.arguments.filterMap fun (key, value) =>
      (position? key).map fun index => (index, value))
  have hall := hsame.trans hperm
  have hdistinct : ∀ left ∈ indexed, ∀ right ∈ indexed, left.1 = right.1 → left = right := by
    have hnodup : (indexed.map Prod.fst).Nodup :=
      (List.pairwise_map.mpr hindexed).imp Nat.ne_of_lt
    exact fun left hleft right hright => List.inj_on_of_nodup_map hnodup hleft hright
  refine congrArg (List.map Prod.snd) ?_
  refine List.Perm.eq_of_pairwise ?_ hsorted (hindexed.imp Nat.le_of_lt) hall
  intro left right hleft hright hle hge
  exact hdistinct left (hall.mem_iff.mp hleft) right hright (Nat.le_antisymm hle hge)

theorem positional_eq_nil {entry : Entry}
    (hnamed : ∀ argument ∈ entry.arguments, IsNamed argument.1) : entry.positional = [] := by
  have hnone : (entry.arguments.filterMap fun (key, value) =>
      (Entry.position? key).map fun index => (index, value)) = [] := by
    rw [List.filterMap_eq_nil_iff]
    intro argument hargument
    simp [(hnamed argument hargument).position?]
  exact positional_eq (by rw [hnone]) .nil

end Entry

end EdgeGateway.Route
