import EdgeGateway.Proofs.Route.Edits
import EdgeGateway.Proofs.Text.Numerals

/-!
# Stripping a path

A path has segments: what stands between its slashes, without the empty pieces.  A
strip drops some of them from the front and writes the others with one slash before
each, and with one behind the last if the path ended with a slash.  So all that a strip
reads of a path is its segments and whether it ends with a slash, and what it writes can
be read in the same way.  From this strips add up, and a strip takes away the prefix that
a filter before it has put there.
-/

namespace EdgeGateway.Route

open Text (glue splitAtEvery)

/-! ## Segments -/

/-- What stands between the slashes of a path, without the empty pieces. -/
def segments (path : List Char) : List (List Char) :=
  (splitAtEvery '/' path).filter (· ≠ [])

theorem ne_nil_of_mem_segments {path segment : List Char}
    (hsegment : segment ∈ segments path) : segment ≠ [] := by
  simpa using (List.mem_filter.mp hsegment).2

theorem slash_not_mem_of_mem_segments {path segment : List Char}
    (hsegment : segment ∈ segments path) : '/' ∉ segment :=
  Text.not_mem_of_mem_splitAtEvery path segment (List.mem_filter.mp hsegment).1

/-- A slash parts the segments wherever it stands. -/
theorem segments_append_slash (front back : List Char) :
    segments (front ++ '/' :: back) = segments front ++ segments back := by
  rw [segments, Text.splitAtEvery_append, List.filter_append]
  rfl

theorem segments_slash (path : List Char) : segments ('/' :: path) = segments path :=
  segments_append_slash [] path

theorem segments_append_slashes {slashes : List Char}
    (hslashes : ∀ char ∈ slashes, char = '/') (front : List Char) :
    segments (front ++ slashes) = segments front := by
  induction slashes generalizing front with
  | nil => rw [List.append_nil]
  | cons char slashes ih =>
      obtain ⟨rfl, hrest⟩ := List.forall_mem_cons.mp hslashes
      rw [List.append_cons, ih hrest, segments_append_slash]
      exact List.append_nil _

/-- Slashes at the end are between no segments. -/
theorem segments_dropEndWhile (path : List Char) :
    segments (Text.dropEndWhile (· = '/') path) = segments path := by
  obtain ⟨dropped, hpath, hdropped⟩ := Text.exists_dropEndWhile_append (· = '/') path
  have hslashes : ∀ char ∈ dropped, char = '/' := by simpa using hdropped
  conv_rhs => rw [hpath, segments_append_slashes hslashes]

namespace Filter

/-! ## What a strip reads and writes -/

section

variable {parts : Nat} {path : List Char}

theorem stripSegments_of_nothing_left (hnone : (segments path).drop parts = []) :
    stripSegments parts path = ['/'] := by
  rw [stripSegments, ← segments, hnone]
  simp [glue]

/-- What is left stands behind one slash each, and the path ends as it did. -/
theorem splitAtEvery_stripSegments (hleft : (segments path).drop parts ≠ []) :
    splitAtEvery '/' (stripSegments parts path) =
      [] :: (segments path).drop parts ++
        (if path.getLast? = some '/' then [[]] else []) := by
  have hpieces := Text.splitAtEvery_glue hleft fun segment hsegment =>
    slash_not_mem_of_mem_segments (List.mem_of_mem_drop hsegment)
  rw [stripSegments, ← segments, List.cons_append, splitAtEvery, if_pos rfl]
  by_cases hends : path.getLast? = some '/'
  · simp [hends, hleft, Text.splitAtEvery_append, splitAtEvery, hpieces]
  · simp [hends, hpieces]

theorem segments_stripSegments :
    segments (stripSegments parts path) = (segments path).drop parts := by
  by_cases hnone : (segments path).drop parts = []
  · rw [stripSegments_of_nothing_left hnone, hnone]
    rfl
  · have hkept : ((segments path).drop parts).filter (· ≠ []) =
        (segments path).drop parts :=
      List.filter_eq_self.mpr fun segment hsegment =>
        decide_eq_true (ne_nil_of_mem_segments (List.mem_of_mem_drop hsegment))
    rw [segments, splitAtEvery_stripSegments hnone, List.filter_append,
      List.filter_cons_of_neg (by simp), hkept]
    split <;> simp

theorem getLast?_stripSegments (hleft : (segments path).drop parts ≠ []) :
    (stripSegments parts path).getLast? = some '/' ↔ path.getLast? = some '/' := by
  constructor
  · intro hlast
    obtain ⟨front, hstripped⟩ := List.getLast?_eq_some_iff.mp hlast
    by_contra hends
    have hpieces := splitAtEvery_stripSegments hleft
    rw [if_neg hends, List.append_nil, hstripped, Text.splitAtEvery_append] at hpieces
    -- The last piece would be empty, but it is a segment of the path.
    obtain ⟨init, last, hdrop⟩ := List.eq_nil_or_concat _ |>.resolve_left hleft
    rw [List.concat_eq_append] at hdrop
    rw [hdrop, ← List.cons_append] at hpieces
    obtain ⟨-, hnil⟩ := List.append_inj' hpieces rfl
    have hmem : last ∈ (segments path).drop parts := by simp [hdrop]
    exact ne_nil_of_mem_segments (List.mem_of_mem_drop hmem) (List.singleton_inj.mp hnil).symm
  · intro hends
    rw [stripSegments, ← segments, if_pos (by simp [hends, hleft])]
    exact List.getLast?_concat

theorem stripSegments_eq_slash_iff :
    stripSegments parts path = ['/'] ↔ (segments path).drop parts = [] := by
  refine ⟨fun hslash => ?_, stripSegments_of_nothing_left⟩
  rw [← segments_stripSegments, hslash]
  rfl

theorem getLast?_stripSegments_iff :
    (stripSegments parts path).getLast? = some '/' ↔
      stripSegments parts path = ['/'] ∨ path.getLast? = some '/' := by
  by_cases hnone : (segments path).drop parts = []
  · simp [stripSegments_of_nothing_left hnone]
  · rw [getLast?_stripSegments hnone, stripSegments_eq_slash_iff]
    simp only [hnone, false_or]

theorem ne_nil_of_mem_inner_piece {piece : List Char}
    (hpiece : piece ∈ (splitAtEvery '/' (stripSegments parts path)).tail.dropLast) :
    piece ≠ [] := by
  by_cases hnone : (segments path).drop parts = []
  · rw [stripSegments_of_nothing_left hnone] at hpiece
    simp [splitAtEvery] at hpiece
  · rw [splitAtEvery_stripSegments hnone, List.cons_append, List.tail_cons] at hpiece
    have hmem : piece ∈ (segments path).drop parts := by
      split at hpiece
      next => rwa [List.dropLast_concat] at hpiece
      next =>
        rw [List.append_nil] at hpiece
        exact List.dropLast_subset _ hpiece
    exact ne_nil_of_mem_segments (List.mem_of_mem_drop hmem)

/-- A strip reads the segments of a path, and its end if any of them is left. -/
theorem stripSegments_congr {left right : List Char} {m n : Nat}
    (hsegments : (segments left).drop m = (segments right).drop n)
    (hends : (segments left).drop m ≠ [] →
      (left.getLast? = some '/' ↔ right.getLast? = some '/')) :
    stripSegments m left = stripSegments n right := by
  rw [stripSegments, stripSegments, ← segments, ← segments, ← hsegments]
  by_cases hnone : (segments left).drop m = []
  · simp [hnone]
  · simp [hends hnone]

end

/-! ## Strips behind strips and prefixes -/

theorem stripSegments_stripSegments (m n : Nat) (path : List Char) :
    stripSegments n (stripSegments m path) = stripSegments (m + n) path := by
  have hdrop : (segments (stripSegments m path)).drop n = (segments path).drop (m + n) := by
    rw [segments_stripSegments, List.drop_drop]
  refine stripSegments_congr hdrop fun hleft => getLast?_stripSegments ?_
  intro hnone
  rw [segments_stripSegments, hnone, List.drop_nil] at hleft
  exact hleft rfl

/-- A strip takes away a prefix that ends in front of a slash. -/
theorem stripSegments_append {path : List Char} (hrooted : path.head? = some '/')
    (front : List Char) :
    stripSegments (segments front).length (front ++ path) = stripSegments 0 path := by
  obtain ⟨rest, rfl⟩ := List.head?_eq_some_iff.mp hrooted
  refine stripSegments_congr ?_ fun _ => ?_
  · rw [segments_append_slash, List.drop_left, List.drop_zero, segments_slash]
  · rw [List.getLast?_append_of_ne_nil _ (List.cons_ne_nil _ _)]

/-- Every count that fits 64 bits is the count of an entry. -/
theorem compile_stripPrefix {entry : Entry} {parts : Nat}
    (hname : Text.lowerAscii entry.name = "stripprefix")
    (hparts : entry.required .filter "parts" 0 = .ok (Text.decimal parts))
    (hlimit : parts ≤ Text.limit64) : compile entry = .ok (stripPrefix parts) := by
  rw [compile, hname]
  refine bind_eq_ok_iff.mpr ⟨Text.decimal parts, hparts, ?_⟩
  simp only [Text.readNatural_decimal hlimit]
  rfl

theorem compile_prefixPath {entry : Entry} {text : String}
    (hname : Text.lowerAscii entry.name = "prefixpath")
    (htext : entry.required .filter "prefix" 0 = .ok text) (hrooted : IsRooted text) :
    compile entry =
      .ok (prefixPath (String.ofList (Text.dropEndWhile (· = '/') text.toList))) := by
  rw [compile, hname]
  exact bind_eq_ok_iff.mpr ⟨text, htext, if_neg (not_not.mpr hrooted)⟩

/-- Strips by any counts add up; a strip of as many segments as a prefix has takes the
prefix away; and what a strip leaves has single slashes, one in front, and one at the end
only if it has no more than that or the path had one there. -/
theorem strips_add_up (captured : List (String × String)) (edits : Edits) :
    (∀ entry parts, Text.lowerAscii entry.name = "stripprefix" →
      entry.required .filter "parts" 0 = .ok (Text.decimal parts) →
      parts ≤ Text.limit64 → compile entry = .ok (stripPrefix parts)) ∧
    (∀ m n, apply captured (apply captured edits (stripPrefix m)) (stripPrefix n) =
      apply captured edits (stripPrefix (m + n))) ∧
    (∀ entry text, Text.lowerAscii entry.name = "prefixpath" →
      entry.required .filter "prefix" 0 = .ok text → IsRooted text →
      ∃ filter, compile entry = .ok filter ∧
        (IsRooted edits.path →
          apply captured (apply captured edits filter)
              (stripPrefix (segments text.toList).length) =
            apply captured edits (stripPrefix 0))) ∧
    (∀ parts,
      let left := (apply captured edits (stripPrefix parts)).path
      IsRooted left ∧
      (∀ piece ∈ (splitAtEvery '/' left.toList).tail.dropLast, piece ≠ []) ∧
      (left.toList.getLast? = some '/' ↔
        left = "/" ∨ edits.path.toList.getLast? = some '/')) := by
  refine ⟨fun entry parts => compile_stripPrefix, fun m n => ?_,
    fun entry text hname htext hrooted => ?_, fun parts => ⟨?_, ?_, ?_⟩⟩
  · simp only [apply, String.toList_ofList, stripSegments_stripSegments]
  · refine ⟨_, compile_prefixPath hname htext hrooted, fun hpath => ?_⟩
    have hsame := stripSegments_append hpath (Text.dropEndWhile (· = '/') text.toList)
    rw [segments_dropEndWhile] at hsame
    simp only [apply, String.toList_append, String.toList_ofList, hsame]
  · simp [IsRooted, apply, stripSegments]
  · simp only [apply, String.toList_ofList]
    exact fun piece => ne_nil_of_mem_inner_piece
  · simp only [apply, String.toList_ofList]
    rw [getLast?_stripSegments_iff, ← String.toList_inj, String.toList_ofList]
    rfl

/-- A prefix with slashes in excess, in front of a path with slashes in excess. -/
theorem prefix_taken_away_again :
    ∃ internal back,
      compile ⟨"PrefixPath", [("prefix", "/internal//v2/")]⟩ = .ok internal ∧
      compile ⟨"StripPrefix", [("parts", "2")]⟩ = .ok back ∧
      apply [] (apply [] { path := "/orders//42/" } internal) back =
        { path := "/orders/42/" } := by
  have hlaws := strips_add_up [] { path := "/orders//42/" }
  have hback := hlaws.1 ⟨"StripPrefix", [("parts", "2")]⟩ 2 (by decide) rfl (by decide)
  obtain ⟨internal, hinternal, hsame⟩ :=
    hlaws.2.2.1 ⟨"PrefixPath", [("prefix", "/internal//v2/")]⟩ "/internal//v2/" (by decide)
      rfl (by decide)
  exact ⟨internal, _, hinternal, hback, (hsame (by decide)).trans (by decide)⟩

end Filter

end EdgeGateway.Route
