import EdgeGateway.Http.HopByHop
import EdgeGateway.Proofs.Text.Letters

/-!
# The values of a name

Header fields are read by name, and every operation on them is a matter of
names: what it does to the values of one name depends on that name alone.  Names
are the same if they differ in the case of ASCII letters only.  Of several fields
set one after the other, the last legal one of a name leaves its value.
-/

namespace EdgeGateway

namespace Http

theorem isHopByHop_congr {left right : String}
    (hsame : Text.lowerAscii left = Text.lowerAscii right) :
    isHopByHop left = isHopByHop right := by
  simp [isHopByHop, Text.equalIgnoringCase, hsame]

theorem isTokenChar_lowerAsciiChar (char : Char) :
    isTokenChar (Text.lowerAsciiChar char) = isTokenChar char := by
  by_cases hupper : 'A' ≤ char ∧ char ≤ 'Z'
  · have hcodes : 65 ≤ char.toNat ∧ char.toNat ≤ 90 := hupper
    have hcode : (Text.lowerAsciiChar char).toNat = char.toNat + 32 := by
      rw [Text.toNat_lowerAsciiChar, if_pos hcodes]
    have hlow : 'a' ≤ Text.lowerAsciiChar char :=
      show 97 ≤ (Text.lowerAsciiChar char).toNat by omega
    have hhigh : Text.lowerAsciiChar char ≤ 'z' :=
      show (Text.lowerAsciiChar char).toNat ≤ 122 by omega
    simp [isTokenChar, Text.isAsciiAlphanumeric, Text.isAsciiLetter, hlow, hhigh, hupper]
  · rw [Text.lowerAsciiChar, if_neg hupper]

theorem isHeaderName_lowerAscii (name : String) :
    isHeaderName (Text.lowerAscii name) = isHeaderName name := by
  have htokens : isTokenChar ∘ Text.lowerAsciiChar = isTokenChar :=
    funext isTokenChar_lowerAsciiChar
  rw [isHeaderName, isHeaderName, Text.lowerAscii, String.toList_ofList, List.isEmpty_map,
    List.all_map, htokens, List.length_map]

theorem isHeaderName_congr {left right : String}
    (hsame : Text.lowerAscii left = Text.lowerAscii right) :
    isHeaderName left = isHeaderName right := by
  rw [← isHeaderName_lowerAscii left, hsame, isHeaderName_lowerAscii]

namespace Headers

/-- Keeping fields by a test on the name keeps all values of a name or none. -/
theorem values_filter (fields : List (String × String)) (name : String)
    (keep : String → Bool) :
    values ⟨fields.filter fun (known, _) => keep known⟩ name =
      if keep (Text.lowerAscii name) then values ⟨fields⟩ name else [] := by
  simp only [values, List.filterMap_filter]
  by_cases hkeep : keep (Text.lowerAscii name) = true
  · rw [if_pos hkeep]
    congr 1
    funext ⟨known, value⟩
    by_cases hknown : known = Text.lowerAscii name <;> simp [hknown, hkeep]
  · rw [if_neg hkeep, List.filterMap_eq_nil_iff]
    rintro ⟨known, value⟩ -
    by_cases hknown : known = Text.lowerAscii name <;> simp [hknown, hkeep]

theorem values_erase (headers : Headers) (name other : String) :
    (headers.erase name).values other =
      if Text.equalIgnoringCase name other then [] else headers.values other := by
  have hfilter := values_filter headers.fields other
    fun known => known ≠ Text.lowerAscii name
  rw [erase, hfilter]
  by_cases hsame : Text.lowerAscii name = Text.lowerAscii other
  · simp [Text.equalIgnoringCase, hsame]
  · simp [Text.equalIgnoringCase, hsame, Ne.symm hsame]

theorem values_withoutHopByHop (headers : Headers) (name : String) :
    headers.withoutHopByHop.values name =
      if isHopByHop name then [] else headers.values name := by
  have hfilter := values_filter headers.fields name fun known => !isHopByHop known
  rw [withoutHopByHop, hfilter, isHopByHop_congr (Text.lowerAscii_lowerAscii name)]
  cases isHopByHop name <;> rfl

theorem values_append (headers : Headers) (name value other : String) :
    (headers.append name value).values other =
      headers.values other ++
        if Text.equalIgnoringCase name other then [value] else [] := by
  by_cases hsame : Text.lowerAscii name = Text.lowerAscii other <;>
    simp [values, append, Text.equalIgnoringCase, hsame]

/-- Whether setting a field takes effect, and on that name. -/
def writes (name : String) (field : String × String) : Bool :=
  isHeaderName field.1 && isHeaderValue field.2 &&
    Text.equalIgnoringCase field.1 name

theorem values_set (headers : Headers) (field : String × String) (name : String) :
    (headers.set field.1 field.2).values name =
      if writes name field then [field.2] else headers.values name := by
  by_cases hlegal : (isHeaderName field.1 && isHeaderValue field.2) = true
  · rw [set, if_pos hlegal, values_append, values_erase]
    by_cases hsame : Text.equalIgnoringCase field.1 name <;>
      simp [writes, hlegal, hsame]
  · simp [set, writes, hlegal]

def setAll (headers : Headers) (fields : List (String × String)) : Headers :=
  fields.foldl (fun headers (name, value) => headers.set name value) headers

/-- The field that leaves its value, of those set one after the other. -/
def lastWriter? (fields : List (String × String)) (name : String) :
    Option (String × String) :=
  (fields.filter (writes name)).getLast?

theorem lastWriter?_append (first second : List (String × String)) (name : String) :
    lastWriter? (first ++ second) name =
      (lastWriter? second name).or (lastWriter? first name) := by
  rw [lastWriter?, List.filter_append, List.getLast?_append]
  rfl

theorem lastWriter?_eq_none_iff {fields : List (String × String)} {name : String} :
    lastWriter? fields name = none ↔ ∀ field ∈ fields, writes name field = false := by
  simp [lastWriter?]

theorem lastWriter?_singleton (field : String × String) (name : String) :
    lastWriter? [field] name = if writes name field then some field else none := by
  by_cases hwrites : writes name field <;> simp [lastWriter?, hwrites]

theorem values_setAll (headers : Headers) (fields : List (String × String))
    (name : String) :
    (headers.setAll fields).values name =
      match lastWriter? fields name with
      | some field => [field.2]
      | none => headers.values name := by
  induction fields generalizing headers with
  | nil => rfl
  | cons field fields ih =>
      have hcons : lastWriter? (field :: fields) name =
          (lastWriter? fields name).or
            (if writes name field then some field else none) := by
        rw [← List.singleton_append, lastWriter?_append, lastWriter?_singleton]
      rw [setAll, List.foldl_cons]
      change ((headers.set field.1 field.2).setAll fields).values name = _
      rw [ih, values_set, hcons]
      cases lastWriter? fields name with
      | some last => rfl
      | none => by_cases hwrites : writes name field <;> simp [hwrites]

theorem values_eraseAll (headers : Headers) (names : List String) (name : String) :
    (names.foldl erase headers).values name =
      if names.any (Text.equalIgnoringCase · name) then []
      else headers.values name := by
  induction names generalizing headers with
  | nil => simp
  | cons erased names ih =>
      rw [List.foldl_cons, ih, values_erase]
      by_cases hsame : Text.equalIgnoringCase erased name <;> simp [hsame]

theorem contains_eq (headers : Headers) (name : String) :
    headers.contains name = !(headers.values name).isEmpty := by
  simp only [contains, first?]
  cases headers.values name <;> rfl

end Headers

end Http

end EdgeGateway
