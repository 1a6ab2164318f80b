import EdgeGateway.Proofs.Version.ResourceKey

/-!
# A version in the place of another

The version that is put into a path takes the place of the first one there, and
a path without a version stays as it is.  So what was put in last is what counts, and
the path still names the same resource.

Here a path is cut at every slash, also behind a question mark or a number sign.  The
key of the resource ends at such a mark, but as far as it sees the place at all it sees
a version there before and after.
-/

namespace EdgeGateway.Version

open Text (glue splitAtEvery)

/-- The text between the slashes, wherever they stand. -/
def piecesOf (path : String) : List (List Char) := splitAtEvery '/' path.toList

def firstVersion? (path : String) : Option (List Char) :=
  (piecesOf path).find? fun piece => IsVersion piece

/-- The first version among pieces stands here. -/
structure FirstVersion (pieces before : List (List Char)) (first : List Char)
    (after : List (List Char)) : Prop where
  place : pieces = before ++ first :: after
  version : IsVersion first
  noneBefore : ∀ piece ∈ before, ¬ IsVersion piece

theorem firstVersion_cases (pieces : List (List Char)) :
    (∀ piece ∈ pieces, ¬ IsVersion piece) ∨
      ∃ before first after, FirstVersion pieces before first after := by
  induction pieces with
  | nil => exact Or.inl (by simp)
  | cons piece pieces ih =>
      by_cases hversion : IsVersion piece
      · exact Or.inr ⟨[], piece, pieces, rfl, hversion, by simp⟩
      · rcases ih with hnone | ⟨before, first, after, hfirst⟩
        · exact Or.inl (List.forall_mem_cons.mpr ⟨hversion, hnone⟩)
        · exact Or.inr ⟨piece :: before, first, after, by rw [hfirst.place, List.cons_append],
            hfirst.version, List.forall_mem_cons.mpr ⟨hversion, hfirst.noneBefore⟩⟩

/-! ## Replacing in a list of pieces -/

section

variable {version : List Char}

theorem replaceFirstVersion_of_none {pieces : List (List Char)}
    (hnone : ∀ piece ∈ pieces, ¬ IsVersion piece) :
    replaceFirstVersion version pieces = pieces := by
  induction pieces with
  | nil => rfl
  | cons piece pieces ih =>
      obtain ⟨hpiece, hpieces⟩ := List.forall_mem_cons.mp hnone
      rw [replaceFirstVersion, isVersionChars_eq_false_iff.mpr hpiece, ih hpieces]
      rfl

theorem replaceFirstVersion_of_first {pieces before after : List (List Char)}
    {first : List Char} (hfirst : FirstVersion pieces before first after) :
    replaceFirstVersion version pieces = before ++ version :: after := by
  obtain ⟨rfl, hversion, hbefore⟩ := hfirst
  induction before with
  | nil => rw [List.nil_append, replaceFirstVersion, isVersionChars_iff.mpr hversion]; rfl
  | cons piece before ih =>
      obtain ⟨hpiece, hmore⟩ := List.forall_mem_cons.mp hbefore
      rw [List.cons_append, replaceFirstVersion, isVersionChars_eq_false_iff.mpr hpiece,
        ih hmore]
      rfl

theorem FirstVersion.replaced {pieces before after : List (List Char)} {first : List Char}
    (hfirst : FirstVersion pieces before first after) (hversion : IsVersion version) :
    FirstVersion (replaceFirstVersion version pieces) before version after :=
  ⟨replaceFirstVersion_of_first hfirst, hversion, hfirst.noneBefore⟩

/-- What was put in last is what counts. -/
theorem replaceFirstVersion_twice (hversion : IsVersion version) (other : List Char)
    (pieces : List (List Char)) :
    replaceFirstVersion other (replaceFirstVersion version pieces) =
      replaceFirstVersion other pieces := by
  rcases firstVersion_cases pieces with hnone | ⟨before, first, after, hfirst⟩
  · rw [replaceFirstVersion_of_none hnone]
  · rw [replaceFirstVersion_of_first (hfirst.replaced hversion),
      replaceFirstVersion_of_first hfirst]

theorem length_replaceFirstVersion (pieces : List (List Char)) :
    (replaceFirstVersion version pieces).length = pieces.length := by
  rcases firstVersion_cases pieces with hnone | ⟨before, first, after, hfirst⟩
  · rw [replaceFirstVersion_of_none hnone]
  · rw [replaceFirstVersion_of_first hfirst, hfirst.place, List.length_append,
      List.length_append, List.length_cons, List.length_cons]

theorem find?_replaceFirstVersion (hversion : IsVersion version) {pieces : List (List Char)}
    {first : List Char}
    (hfound : (replaceFirstVersion version pieces).find? (fun piece => IsVersion piece) =
      some first) : first = version := by
  rcases firstVersion_cases pieces with hnone | ⟨before, old, after, hfirst⟩
  · rw [replaceFirstVersion_of_none hnone] at hfound
    have hversion : IsVersion first := by simpa using List.find?_some hfound
    exact absurd hversion (hnone first (List.mem_of_find?_eq_some hfound))
  · have hbefore : before.find? (fun piece => IsVersion piece) = none := by
      rw [List.find?_eq_none]
      simpa using hfirst.noneBefore
    rw [replaceFirstVersion_of_first hfirst, List.find?_append, hbefore, Option.none_or,
      List.find?_cons_of_pos (by simpa using hversion)] at hfound
    exact (Option.some.inj hfound).symm

end

/-! ## The part that the key sees -/

/-- What is left of pieces when the text ends at the first mark. -/
def endAtMark : List (List Char) → List (List Char)
  | [] => []
  | piece :: pieces =>
      if piece.all isUnmarked then piece :: endAtMark pieces else [piece.takeWhile isUnmarked]

theorem splitAtEvery_takeWhile_isUnmarked (text : List Char) :
    splitAtEvery '/' (text.takeWhile isUnmarked) = endAtMark (splitAtEvery '/' text) := by
  induction text with
  | nil => rfl
  | cons char text ih =>
      by_cases hslash : char = '/'
      · subst hslash
        rw [List.takeWhile_cons_of_pos rfl, splitAtEvery, if_pos rfl, ih, splitAtEvery,
          if_pos rfl, endAtMark, List.all_nil, if_pos rfl]
      · rw [splitAtEvery, if_neg hslash]
        cases hpieces : splitAtEvery '/' text with
        | nil => exact absurd hpieces (Text.splitAtEvery_ne_nil '/' text)
        | cons piece pieces =>
            dsimp only
            rw [endAtMark, List.all_cons]
            cases hmark : isUnmarked char with
            | false =>
                rw [List.takeWhile_cons_of_neg (by simp [hmark]), Bool.false_and,
                  if_neg (by decide), List.takeWhile_cons_of_neg (by simp [hmark]), splitAtEvery]
            | true =>
                rw [List.takeWhile_cons_of_pos hmark, splitAtEvery, if_neg hslash, ih, hpieces,
                  endAtMark, Bool.true_and]
                by_cases hall : piece.all isUnmarked = true
                · rw [if_pos hall, if_pos hall]
                · rw [if_neg hall, if_neg hall, List.takeWhile_cons_of_pos hmark]

theorem hasSegments_endAtMark (path : String) :
    HasSegments path (endAtMark (piecesOf path)) := by
  rw [hasSegments_iff, beforeQuery, splitAtEvery_takeWhile_isUnmarked, piecesOf]

theorem IsVersion.all_isUnmarked {segment : List Char} (hversion : IsVersion segment) :
    segment.all isUnmarked = true := by
  rw [List.all_eq_true]
  intro char hchar
  rw [isUnmarked_iff]
  constructor
  · rintro rfl
    exact hversion.not_mem (by decide) hchar
  · rintro rfl
    exact hversion.not_mem (by decide) hchar

/-- A version is seen, or something before it hides it. -/
theorem endAtMark_append_cons (before after : List (List Char)) :
    (∀ version, IsVersion version →
        endAtMark (before ++ version :: after) = before ++ version :: endAtMark after) ∨
      ∀ rest, endAtMark (before ++ rest) = endAtMark before := by
  induction before with
  | nil =>
      refine Or.inl fun version hversion => ?_
      rw [List.nil_append, endAtMark, if_pos hversion.all_isUnmarked, List.nil_append]
  | cons piece before ih =>
      by_cases hall : piece.all isUnmarked = true
      · refine ih.imp (fun hseen version hversion => ?_) fun hhidden rest => ?_
        · rw [List.cons_append, endAtMark, if_pos hall, hseen version hversion,
            List.cons_append]
        · rw [List.cons_append, endAtMark, if_pos hall, hhidden, endAtMark, if_pos hall]
      · refine Or.inr fun rest => ?_
        rw [List.cons_append, endAtMark, if_neg hall, endAtMark, if_neg hall]

theorem resourceNames_replaceFirstVersion {version : List Char} (hversion : IsVersion version)
    (pieces : List (List Char)) :
    resourceNames (endAtMark (replaceFirstVersion version pieces)) =
      resourceNames (endAtMark pieces) := by
  rcases firstVersion_cases pieces with hnone | ⟨before, first, after, hfirst⟩
  · rw [replaceFirstVersion_of_none hnone]
  · have hidle : ∀ segment, IsVersion segment →
        resourceNames (before ++ segment :: endAtMark after) =
          resourceNames (before ++ endAtMark after) := by
      intro segment hsegment
      have hsingle : ∀ other ∈ [segment], IsIdle other := by
        simpa [IsIdle] using Or.inr hsegment
      have hdropped := resourceNames_idle hsingle before (endAtMark after)
      rwa [List.append_assoc, List.singleton_append] at hdropped
    rw [replaceFirstVersion_of_first hfirst, hfirst.place]
    rcases endAtMark_append_cons before after with hseen | hhidden
    · rw [hseen version hversion, hseen first hfirst.version, hidle version hversion,
        hidle first hfirst.version]
    · rw [hhidden, hhidden]

/-! ## Replacing in a path -/

section

variable {version : String}

theorem piecesOf_pathWithVersion (hversion : IsVersion version.toList) (path : String) :
    piecesOf (pathWithVersion path version) =
      replaceFirstVersion version.toList (piecesOf path) := by
  have hpieces : ∀ piece ∈ piecesOf path, '/' ∉ piece :=
    Text.not_mem_of_mem_splitAtEvery path.toList
  rw [piecesOf, pathWithVersion, String.toList_ofList, ← piecesOf]
  apply Text.splitAtEvery_glue
  · intro hnone
    have hlength : (replaceFirstVersion version.toList (piecesOf path)).length =
        (piecesOf path).length := length_replaceFirstVersion _
    rw [hnone, List.length_nil, eq_comm, List.length_eq_zero_iff] at hlength
    exact Text.splitAtEvery_ne_nil '/' path.toList hlength
  · rcases firstVersion_cases (piecesOf path) with hnone | ⟨before, first, after, hfirst⟩
    · rw [replaceFirstVersion_of_none hnone]
      exact hpieces
    · rw [replaceFirstVersion_of_first hfirst]
      rw [hfirst.place] at hpieces
      simp only [List.forall_mem_append, List.forall_mem_cons] at hpieces ⊢
      exact ⟨hpieces.1, hversion.not_mem (by decide), hpieces.2.2⟩

theorem pathWithVersion_of_none {path : String}
    (hnone : ∀ piece ∈ piecesOf path, ¬ IsVersion piece) :
    pathWithVersion path version = path := by
  have hkept : replaceFirstVersion version.toList (piecesOf path) = piecesOf path :=
    replaceFirstVersion_of_none hnone
  rw [pathWithVersion, ← piecesOf, hkept, piecesOf, Text.glue_splitAtEvery,
    String.ofList_toList]

theorem pathWithVersion_twice (hversion : IsVersion version.toList) (path other : String) :
    pathWithVersion (pathWithVersion path version) other = pathWithVersion path other := by
  have hpieces := piecesOf_pathWithVersion hversion path
  rw [pathWithVersion, ← piecesOf, hpieces, replaceFirstVersion_twice hversion, piecesOf,
    ← pathWithVersion]

theorem normalizeResource?_pathWithVersion (hversion : IsVersion version.toList)
    (path : String) :
    normalizeResource? (pathWithVersion path version) = normalizeResource? path := by
  rw [normalizeResource?_eq (hasSegments_endAtMark _),
    normalizeResource?_eq (hasSegments_endAtMark path), piecesOf_pathWithVersion hversion,
    resourceNames_replaceFirstVersion hversion]

end

end EdgeGateway.Version
