import EdgeGateway.Proofs.Route.Arguments

/-!
# Numbered arguments

Arguments that are numbered from zero are found at their places by any name that
is not used, and come back as a list in their order.  Arguments under names are
found by their names, and several in one text are the parts between its commas.
-/

namespace EdgeGateway.Route

namespace Entry

variable {name key : String} {values keys : List String}

/-- Values under positional keys, from zero on. -/
def numbered (values : List String) : List (String × String) :=
  values.zipIdx.map fun (value, index) => (positionalKey index, value)

theorem keys_numbered (values : List String) :
    (numbered values).map Prod.fst =
      (List.range' 0 values.length).map positionalKey := by
  rw [numbered, List.map_map, ← List.zipIdx_map_snd, List.map_map]
  rfl

theorem nodup_keys_numbered (values : List String) :
    ((numbered values).map Prod.fst).Nodup := by
  rw [keys_numbered]
  exact List.Nodup.map positionalKey_injective List.nodup_range'

theorem mem_numbered_iff {index : Nat} {value : String} :
    (positionalKey index, value) ∈ numbered values ↔ values[index]? = some value := by
  rw [← List.mk_mem_zipIdx_iff_getElem?, numbered, List.mem_map]
  constructor
  · rintro ⟨⟨other, position⟩, hmem, hsame⟩
    obtain ⟨hkey, rfl⟩ := Prod.mk.inj hsame
    exact positionalKey_injective hkey ▸ hmem
  · exact fun hmem => ⟨_, hmem, rfl⟩

theorem argument?_numbered (name : String) (values : List String) (index : Nat) :
    (ofArguments name (numbered values)).argument? (positionalKey index) =
      values[index]? := by
  apply Option.ext
  intro value
  rw [argument?_ofArguments_iff (nodup_keys_numbered values), mem_numbered_iff]

theorem positional_numbered (hlength : values.length ≤ Text.limit64 + 1) :
    (ofArguments name (numbered values)).positional = values := by
  have hperm := (arguments_ofArguments name (nodup_keys_numbered values)).filterMap
    fun argument => (position? argument.1).map fun index => (index, argument.2)
  -- The keys are kept in an order of their own, so only the numbers in them count.
  have hindexed : (numbered values).filterMap (fun argument =>
      (position? argument.1).map fun index => (index, argument.2)) =
        values.zipIdx.map Prod.swap := by
    rw [numbered, List.filterMap_map, ← List.filterMap_eq_map]
    refine List.filterMap_congr fun entry hentry => ?_
    obtain ⟨value, index⟩ := entry
    have hindex := List.snd_lt_of_mem_zipIdx hentry
    have hposition : position? (positionalKey index) = some index :=
      position?_positionalKey (by omega)
    simp [hposition]
  rw [hindexed] at hperm
  rw [positional_eq hperm, List.map_map]
  · exact List.zipIdx_map_fst 0 values
  · rw [List.pairwise_map]
    have hsorted : (values.zipIdx.map Prod.snd).Pairwise (· < ·) := by
      rw [List.zipIdx_map_snd]
      exact List.pairwise_lt_range'
    exact List.pairwise_map.mp hsorted

/-! ## Looking arguments up -/

/-- What counts of an argument: an empty one is as good as none. -/
def given (argument : Option String) : Option String :=
  argument.filter (· ≠ "")

theorem find?_eq (entry : Entry) (key : String) (index : Nat) :
    entry.find? key index =
      given ((entry.argument? key).or (entry.argument? (positionalKey index))) := by
  rw [find?, Option.orElse_eq_orElse, Option.orElse_eq_or, given]
  split
  next hempty => rw [hempty]; rfl
  next found hfound =>
    cases hsame : (entry.argument? key).or (entry.argument? (positionalKey index)) with
    | none => rfl
    | some value =>
        have hne : value ≠ "" := by
          rintro rfl
          exact hfound hsame
        rw [Option.filter_some, if_pos (decide_eq_true hne)]

/-- A numbered argument is found at its place by any key that is not used. -/
theorem find?_numbered {index : Nat}
    (hunused : (ofArguments name (numbered values)).argument? key = none) :
    (ofArguments name (numbered values)).find? key index = given values[index]? := by
  rw [find?_eq, hunused, Option.none_or, argument?_numbered]

theorem keys_zip_sublist (keys values : List String) :
    ((keys.zip values).map Prod.fst).Sublist keys := by
  induction keys generalizing values with
  | nil => exact .refl _
  | cons key keys ih =>
      cases values with
      | nil => exact List.nil_sublist _
      | cons value values => exact (ih values).cons_cons key

/-- A named argument is found by its name. -/
theorem find?_named {arguments : List (String × String)} {index : Nat}
    (hkeys : keys.Nodup) (hnamed : ∀ key ∈ keys, IsNamed key)
    (hperm : arguments.Perm (keys.zip values)) (hkey : keys[index]? = some key) :
    (ofArguments name arguments).find? key index = given values[index]? := by
  have hused := hperm.map Prod.fst
  have hsub := keys_zip_sublist keys values
  have hnodup : (arguments.map Prod.fst).Nodup :=
    hused.nodup_iff.mpr (hkeys.sublist hsub)
  have hnumber : (ofArguments name arguments).argument? (positionalKey index) = none := by
    refine argument?_ofArguments_eq_none hnodup fun hmem => ?_
    exact (hnamed _ (hsub.subset (hused.mem_iff.mp hmem))).ne_positionalKey index rfl
  have hname : (ofArguments name arguments).argument? key = values[index]? := by
    apply Option.ext
    intro value
    rw [argument?_ofArguments_iff hnodup, hperm.mem_iff, List.mem_iff_getElem?]
    constructor
    · -- The key stands at one place only, and the value found with it is the one there.
      rintro ⟨place, hplace⟩
      obtain ⟨hother, hvalue⟩ := List.getElem?_zip_eq_some.mp hplace
      obtain ⟨hbound, -⟩ := List.getElem?_eq_some_iff.mp hother
      obtain rfl := (List.getElem?_inj hbound hkeys).mp (hother.trans hkey.symm)
      exact hvalue
    · exact fun hvalue => ⟨index, List.getElem?_zip_eq_some.mpr ⟨hkey, hvalue⟩⟩
  rw [find?_eq, hnumber, Option.or_none, hname]

/-! ## Lists -/

/-- Values that can be written between commas and read back. -/
structure Plain (values : List String) : Prop where
  nonempty : values ≠ []
  trimmed : ∀ value ∈ values, Text.trim value = value
  whole : ∀ value ∈ values, ',' ∉ value.toList

theorem Plain.split_join (hplain : Plain values) :
    Text.split ',' (Text.join "," values) = values :=
  Text.split_join hplain.nonempty hplain.whole

theorem Plain.map_trim (hplain : Plain values) : values.map Text.trim = values :=
  (List.map_congr_left hplain.trimmed).trans (List.map_id values)

theorem list_numbered (hsome : values ≠ []) (hlength : values.length ≤ Text.limit64 + 1) :
    (ofArguments name (numbered values)).list keys = values.filter (· ≠ "") := by
  rw [list, positional_numbered hlength]
  cases values with
  | nil => exact absurd rfl hsome
  | cons => rfl

theorem argument?_singleton (name known value key : String) :
    (ofArguments name [(known, value)]).argument? key =
      if known = key then some value else none := by
  by_cases hsame : known = key <;>
    simp [ofArguments, insert, Json.insertMember, argument?, hsame]

/-- Of different keys, one finds the only argument. -/
theorem filterMap_argument?_singleton {value : String} (hkeys : keys.Nodup)
    (hkey : key ∈ keys) :
    keys.filterMap (ofArguments name [(key, value)]).argument? = [value] := by
  induction keys with
  | nil => simp at hkey
  | cons other keys ih =>
      obtain ⟨hfresh, hrest⟩ := List.nodup_cons.mp hkeys
      rw [List.filterMap_cons, argument?_singleton]
      rcases List.mem_cons.mp hkey with rfl | hmem
      · have hnone : keys.filterMap (ofArguments name [(key, value)]).argument? = [] := by
          refine List.filterMap_eq_nil_iff.mpr fun later hlater => ?_
          rw [argument?_singleton, if_neg]
          rintro rfl
          exact hfresh hlater
        rw [if_pos rfl, hnone]
      · have hne : key ≠ other := by
          rintro rfl
          exact hfresh hmem
        rw [if_neg hne, ih hrest hmem]

theorem list_joined (hkeys : keys.Nodup) (hkey : key ∈ keys) (hnamed : IsNamed key)
    (hplain : Plain values) :
    (ofArguments name [(key, Text.join "," values)]).list keys =
      values.filter (· ≠ "") := by
  -- A numbered argument would be taken in place of the named one.
  have hnone : (ofArguments name [(key, Text.join "," values)]).positional = [] := by
    refine positional_eq_nil fun argument hargument => ?_
    obtain rfl : argument = (key, Text.join "," values) := by
      simpa [ofArguments, insert, Json.insertMember] using hargument
    exact hnamed
  rw [list, hnone, filterMap_argument?_singleton hkeys hkey, List.flatMap_singleton,
    hplain.split_join, ← List.filterMap_eq_filter]
  refine List.filterMap_congr fun value hvalue => ?_
  rw [hplain.trimmed value hvalue, Option.guard]
  split <;> simp_all

end Entry

end EdgeGateway.Route
