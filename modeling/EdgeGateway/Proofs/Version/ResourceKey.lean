import EdgeGateway.Proofs.Version.Segments

/-!
# The key of a resource

A resource is named by the first two segments of its path that are neither empty
nor versions, in lower case.  Its key says these names and nothing else, so paths have
one key if and only if they name one resource, and a key is a path with the same key.
-/

namespace EdgeGateway.Version

open Text (glue splitAtEvery lowerAsciiChar lowerAscii)

/-- What does not name a resource. -/
def IsIdle (segment : List Char) : Prop := segment = [] ∨ IsVersion segment

instance : DecidablePred IsIdle := fun _ => inferInstanceAs (Decidable (_ ∨ _))

/-- The names of a resource, from the segments of a path. -/
def resourceNames (segments : List (List Char)) : List String :=
  ((segments.filter fun segment => ¬ IsIdle segment).take 2).map fun segment =>
    Unicode.lowercase (String.ofList segment)

def keyOf? : List String → Option String
  | [] => none
  | names => some ("/" ++ Text.join "/" names)

theorem normalizeResource?_eq {path : String} {segments : List (List Char)}
    (hsegments : HasSegments path segments) :
    normalizeResource? path = keyOf? (resourceNames segments) := by
  have hfilter : (fun segment : List Char => !segment.isEmpty && !isVersionChars segment) =
      fun segment => decide (¬ IsIdle segment) := by
    funext segment
    rw [Bool.eq_iff_iff]
    simp [IsIdle, isVersionChars_eq_false_iff]
  have hresource : resourceSegments path =
      (segments.filter fun segment => ¬ IsIdle segment).take 2 := by
    rw [resourceSegments, hfilter, hasSegments_iff.mp hsegments]
    rfl
  rw [normalizeResource?, hresource, resourceNames]
  cases (segments.filter fun segment => ¬ IsIdle segment).take 2 <;> rfl

/-! ## Names -/

/-- A name is a lowered segment, neither empty nor a version nor with a mark in it. -/
structure IsName (name : String) : Prop where
  busy : ¬ IsIdle name.toList
  apart : '/' ∉ name.toList ∧ '?' ∉ name.toList ∧ '#' ∉ name.toList
  lowered : Unicode.lowercase name = name

theorem isName_of_mem_resourceNames {path : String} {segments : List (List Char)}
    (hsegments : HasSegments path segments) {name : String}
    (hname : name ∈ resourceNames segments) : IsName name := by
  obtain ⟨segment, htaken, rfl⟩ := List.mem_map.mp hname
  obtain ⟨hsegment, hbusy⟩ := List.mem_filter.mp (List.mem_of_mem_take htaken)
  obtain ⟨hslash, hquery, hfragment⟩ := hsegments.apart segment hsegment
  have hlowered : (Unicode.lowercase (String.ofList segment)).toList =
      Unicode.lowercaseFrom [] segment := by
    rw [Unicode.lowercase, String.toList_ofList, String.toList_ofList]
  refine ⟨?_, ?_, Unicode.lowercase_lowercase _⟩
  · rintro (hempty | hversion)
    · rw [hlowered, Unicode.lowercaseFrom_eq_nil_iff] at hempty
      exact of_decide_eq_true hbusy (Or.inl hempty)
    · have hsame := isVersion_of_lowercase hversion
      rw [String.toList_ofList] at hsame
      exact of_decide_eq_true hbusy (Or.inr hsame)
  · rw [hlowered]
    exact ⟨fun h => hslash (Unicode.mem_of_mem_lowercaseFrom (by decide) h),
      fun h => hquery (Unicode.mem_of_mem_lowercaseFrom (by decide) h),
      fun h => hfragment (Unicode.mem_of_mem_lowercaseFrom (by decide) h)⟩

/-- The key of names can be told apart from the key of others. -/
theorem keyOf?_injective {left right : List String} (hleft : ∀ name ∈ left, IsName name)
    (hright : ∀ name ∈ right, IsName name) (hkey : keyOf? left = keyOf? right) :
    left = right := by
  have hpiece : ∀ {name : String}, IsName name → name ≠ "" ∧ '/' ∉ name.toList := by
    intro name hname
    refine ⟨?_, hname.apart.1⟩
    rintro rfl
    exact hname.busy (Or.inl rfl)
  cases left with
  | nil =>
      cases right with
      | nil => rfl
      | cons name names => exact absurd hkey (by simp [keyOf?])
  | cons first rest =>
      cases right with
      | nil => exact absurd hkey (by simp [keyOf?])
      | cons name names =>
          have hjoin : Text.join (String.singleton '/') (first :: rest) =
              Text.join (String.singleton '/') (name :: names) :=
            String.append_right_inj "/" |>.mp (Option.some.inj hkey)
          exact Text.join_injective (fun name hname => hpiece (hleft name hname))
            (fun name hname => hpiece (hright name hname)) hjoin

theorem hasSegments_key {names : List String} (hnames : ∀ name ∈ names, IsName name)
    {key : String} (hkey : keyOf? names = some key) :
    HasSegments key ([] :: names.map String.toList) := by
  obtain ⟨hsome, rfl⟩ : names ≠ [] ∧ "/" ++ Text.join "/" names = key := by
    cases names with
    | nil => simp [keyOf?] at hkey
    | cons name names => exact ⟨List.cons_ne_nil _ _, Option.some.inj hkey⟩
  refine ⟨List.cons_ne_nil _ _, ?_, [], ?_, by simp⟩
  · simpa using fun name hname => (hnames name hname).apart
  · rw [Text.glue_cons (by simpa using hsome)]
    simp [Text.join]

theorem resourceNames_of_names {names : List String} (hnames : ∀ name ∈ names, IsName name)
    (hfew : names.length ≤ 2) : resourceNames ([] :: names.map String.toList) = names := by
  have hempty : decide (¬ IsIdle []) = false := by simp [IsIdle]
  have hbusy : (names.map String.toList).filter (fun segment => ¬ IsIdle segment) =
      names.map String.toList := by
    rw [List.filter_eq_self, List.forall_mem_map]
    exact fun name hname => decide_eq_true (hnames name hname).busy
  rw [resourceNames, List.filter_cons_of_neg (by simp [hempty]), hbusy,
    List.take_of_length_le (by simpa using hfew), List.map_map]
  refine (List.map_congr_left fun name hname => ?_).trans (List.map_id names)
  rw [Function.comp_apply, String.ofList_toList, (hnames name hname).lowered, id]

/-! ## What a key does not see -/

theorem resourceNames_idle {idle : List (List Char)} (hidle : ∀ segment ∈ idle, IsIdle segment)
    (before after : List (List Char)) :
    resourceNames (before ++ idle ++ after) = resourceNames (before ++ after) := by
  have hdropped : idle.filter (fun segment => ¬ IsIdle segment) = [] := by
    rw [List.filter_eq_nil_iff]
    simpa using hidle
  rw [resourceNames, resourceNames, List.filter_append, List.filter_append, hdropped,
    List.append_nil, List.filter_append]

theorem resourceNames_map_lowerAsciiChar (segments : List (List Char)) :
    resourceNames (segments.map (List.map lowerAsciiChar)) = resourceNames segments := by
  have hidle : (fun segment => decide (¬ IsIdle segment)) ∘ List.map lowerAsciiChar =
      fun segment => decide (¬ IsIdle segment) := by
    funext segment
    simp [IsIdle, isVersion_map_lowerAsciiChar]
  rw [resourceNames, List.filter_map, hidle, ← List.map_take, List.map_map, resourceNames]
  refine List.map_congr_left fun segment _ => Unicode.lowercase_congr ?_
  have hlower : lowerAscii (String.ofList segment) =
      String.ofList (segment.map lowerAsciiChar) := by
    rw [lowerAscii, String.toList_ofList]
  rw [← hlower, Text.lowerAscii_lowerAscii]

theorem beforeQuery_append (front back : String) :
    beforeQuery (front ++ back) = front.toList ++ beforeQuery back ∨
      ∀ other, beforeQuery (front ++ other) = beforeQuery (front ++ back) := by
  simp only [beforeQuery, String.toList_append, List.takeWhile_append]
  split
  · exact Or.inl rfl
  · exact Or.inr fun _ => rfl

theorem normalizeResource?_slashes (front back : String) :
    normalizeResource? (front ++ "//" ++ back) = normalizeResource? (front ++ "/" ++ back) := by
  have hslash : ∀ text, beforeQuery ("/" ++ text) = '/' :: beforeQuery text := by
    intro text
    rw [beforeQuery, beforeQuery, String.toList_append]
    rfl
  have htwice : "//" ++ back = "/" ++ ("/" ++ back) := by
    rw [← String.append_assoc]
    rfl
  have hnames : ∀ path, normalizeResource? path =
      keyOf? (resourceNames (splitAtEvery '/' (beforeQuery path))) :=
    fun path => normalizeResource?_eq (hasSegments_iff.mpr rfl)
  rw [hnames, hnames, String.append_assoc, String.append_assoc]
  rcases beforeQuery_append front ("/" ++ back) with hkept | hcut
  · rcases beforeQuery_append front ("//" ++ back) with htwo | hcut
    · have hempty : ∀ segment ∈ [([] : List Char)], IsIdle segment := by simp [IsIdle]
      have hone := resourceNames_idle hempty (splitAtEvery '/' front.toList)
        (splitAtEvery '/' (beforeQuery back))
      rw [List.append_assoc, List.singleton_append] at hone
      rw [hkept, htwo, htwice, hslash, hslash, Text.splitAtEvery_append,
        Text.splitAtEvery_append, splitAtEvery, if_pos rfl, hone]
    · rw [hcut ("/" ++ back)]
  · rw [hcut ("//" ++ back)]

theorem normalizeResource?_lowerAscii (path : String) :
    normalizeResource? (lowerAscii path) = normalizeResource? path := by
  obtain ⟨segments, hsegments, -⟩ := existsUnique_hasSegments path
  rw [normalizeResource?_eq hsegments, normalizeResource?_eq hsegments.lowerAscii,
    resourceNames_map_lowerAsciiChar]

theorem normalizeResource?_key {path key : String} (hkey : normalizeResource? path = some key) :
    normalizeResource? key = some key := by
  obtain ⟨segments, hsegments, -⟩ := existsUnique_hasSegments path
  have hnames : ∀ name ∈ resourceNames segments, IsName name :=
    fun _ => isName_of_mem_resourceNames hsegments
  have hfew : (resourceNames segments).length ≤ 2 := by
    rw [resourceNames, List.length_map]
    exact List.length_take_le 2 _
  rw [normalizeResource?_eq hsegments] at hkey
  rw [normalizeResource?_eq (hasSegments_key hnames hkey), resourceNames_of_names hnames hfew,
    hkey]

/-- Paths have one key if and only if they name one resource.  So the key does not see
versions, repeated slashes and the case of letters, and it is its own key. -/
theorem resource_key_canonical :
    (∀ path, ∃! segments, HasSegments path segments) ∧
    (∀ left right leftSegments rightSegments,
      HasSegments left leftSegments → HasSegments right rightSegments →
        (normalizeResource? left = normalizeResource? right ↔
          resourceNames leftSegments = resourceNames rightSegments)) ∧
    (∀ path other before idle after,
      HasSegments path (before ++ after) → HasSegments other (before ++ idle ++ after) →
        (∀ segment ∈ idle, IsIdle segment) →
          normalizeResource? other = normalizeResource? path) ∧
    (∀ front back,
      normalizeResource? (front ++ "//" ++ back) = normalizeResource? (front ++ "/" ++ back)) ∧
    (∀ left right, lowerAscii left = lowerAscii right →
      normalizeResource? left = normalizeResource? right) ∧
    (∀ path key, normalizeResource? path = some key → normalizeResource? key = some key) := by
  refine ⟨existsUnique_hasSegments, ?_, ?_, normalizeResource?_slashes, ?_,
    fun _ _ => normalizeResource?_key⟩
  · intro left right leftSegments rightSegments hleft hright
    rw [normalizeResource?_eq hleft, normalizeResource?_eq hright]
    exact ⟨keyOf?_injective (fun _ => isName_of_mem_resourceNames hleft)
      (fun _ => isName_of_mem_resourceNames hright), congrArg keyOf?⟩
  · intro path other before idle after hpath hother hidle
    rw [normalizeResource?_eq hpath, normalizeResource?_eq hother,
      resourceNames_idle hidle before after]
  · intro left right hsame
    rw [← normalizeResource?_lowerAscii left, hsame, normalizeResource?_lowerAscii]

theorem order_paths_have_one_key :
    normalizeResource? "/api/v1.2/orders/7?page=2" = normalizeResource? "//API/Orders/V3" ∧
      normalizeResource? "/v2/api/orders" = normalizeResource? "/api/orders" ∧
      normalizeResource? "/API/orders" = normalizeResource? "/api/ORDERS" ∧
      normalizeResource? "/api/orders" ≠ normalizeResource? "/api/items" ∧
      normalizeResource? "/api/orders" = some "/api/orders" := by
  obtain ⟨-, hkeys, hidle, -, hcase, hkey⟩ := resource_key_canonical
  have hdeep : HasSegments "/api/v1.2/orders/7?page=2"
      ["".toList, "api".toList, "v1.2".toList, "orders".toList, "7".toList] :=
    hasSegments_iff.mpr (by decide +kernel)
  have hlate : HasSegments "//API/Orders/V3"
      ["".toList, "".toList, "API".toList, "Orders".toList, "V3".toList] :=
    hasSegments_iff.mpr (by decide +kernel)
  have hplain : HasSegments "/api/orders" (["".toList] ++ ["api".toList, "orders".toList]) :=
    hasSegments_iff.mpr (by decide +kernel)
  have hearly : HasSegments "/v2/api/orders"
      (["".toList] ++ ["v2".toList] ++ ["api".toList, "orders".toList]) :=
    hasSegments_iff.mpr (by decide +kernel)
  have hitems : HasSegments "/api/items" ["".toList, "api".toList, "items".toList] :=
    hasSegments_iff.mpr (by decide +kernel)
  refine ⟨(hkeys _ _ _ _ hdeep hlate).mpr (by decide +kernel),
    hidle _ _ _ _ _ hplain hearly (by decide +kernel), hcase _ _ (by decide +kernel),
    fun hsame => ?_, hkey "/API/v2/Orders/7" _ (by decide +kernel)⟩
  exact absurd ((hkeys _ _ _ _ hplain hitems).mp hsame) (by decide +kernel)

end EdgeGateway.Version
