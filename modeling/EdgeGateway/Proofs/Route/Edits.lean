import EdgeGateway.Proofs.Attempt
import EdgeGateway.Proofs.Text.Pieces
import EdgeGateway.Route.Resolved
import Mathlib.Data.List.Induction

/-!
# What filters leave

A chain of filters leaves three things: the fields to be added, the names to be
removed, and a path.  The fields and the names are those of the header filters in
their order.  A path that begins with a slash keeps it through strips and
prefixes; only a replaced path or a filled template can be without one, and stays
so until another filter puts a path in its place.
-/

namespace EdgeGateway.Route

/-- Whether a path begins with a slash. -/
def IsRooted (path : String) : Prop := path.toList.head? = some '/'

instance : DecidablePred IsRooted :=
  fun path => inferInstanceAs (Decidable (path.toList.head? = some '/'))

theorem isRooted_iff {path : String} :
    IsRooted path ↔ ∃ rest, path.toList = '/' :: rest := by
  unfold IsRooted
  cases path.toList with
  | nil => simp
  | cons first rest => simp

theorem IsRooted.append {path : String} (hrooted : IsRooted path) (rest : String) :
    IsRooted (path ++ rest) := by
  obtain ⟨chars, hchars⟩ := isRooted_iff.mp hrooted
  exact isRooted_iff.mpr ⟨chars ++ rest.toList, by simp [hchars]⟩

namespace Filter

/-! ## Header fields -/

def addition? : Filter → Option (String × String)
  | addHeader name value => some (name, value)
  | _ => none

def removal? : Filter → Option String
  | removeHeader name => some name
  | _ => none

theorem addHeaders_foldl (filters : List Filter)
    (captured : List (String × String)) (edits : Edits) :
    (filters.foldl (apply captured) edits).addHeaders =
      edits.addHeaders ++ filters.filterMap addition? := by
  induction filters generalizing edits with
  | nil => simp
  | cons filter filters ih =>
      rw [List.foldl_cons, ih]
      cases filter <;> simp [apply, addition?, List.filterMap_cons]

theorem removeHeaders_foldl (filters : List Filter)
    (captured : List (String × String)) (edits : Edits) :
    (filters.foldl (apply captured) edits).removeHeaders =
      edits.removeHeaders ++ (filters.filterMap removal?).map Text.lowerAscii := by
  induction filters generalizing edits with
  | nil => simp
  | cons filter filters ih =>
      rw [List.foldl_cons, ih]
      cases filter <;> simp [apply, removal?, List.filterMap_cons]

theorem addHeaders_applyAll (filters : List Filter)
    (captured : List (String × String)) (path : String) :
    (applyAll filters captured path).addHeaders = filters.filterMap addition? := by
  rw [applyAll, addHeaders_foldl, List.nil_append]

theorem removeHeaders_applyAll (filters : List Filter)
    (captured : List (String × String)) (path : String) :
    (applyAll filters captured path).removeHeaders =
      (filters.filterMap removal?).map Text.lowerAscii := by
  rw [applyAll, removeHeaders_foldl, List.nil_append]

/-! ## The path -/

/-- Whether a filter puts a path of its own making in the place of the path. -/
def replacesPath : Filter → Bool
  | replacePath _ _ | setPath _ => true
  | _ => false

/-- Whether a filter leaves the path as it is. -/
def keepsPath : Filter → Bool
  | addHeader _ _ | removeHeader _ => true
  | prefixPath text => text = ""
  | _ => false

/-- A prefix is empty or begins with a slash. -/
def Proper : Filter → Prop
  | prefixPath text => text = "" ∨ IsRooted text
  | _ => True

theorem dropEndWhile_slash {text : List Char} (hrooted : text.head? = some '/') :
    Text.dropEndWhile (· = '/') text = [] ∨
      (Text.dropEndWhile (· = '/') text).head? = some '/' := by
  obtain ⟨dropped, htext, -⟩ := Text.exists_dropEndWhile_append (· = '/') text
  cases hkept : Text.dropEndWhile (· = '/') text with
  | nil => exact Or.inl rfl
  | cons first rest =>
      right
      rw [htext, hkept] at hrooted
      simpa using hrooted

/-- What compiles is proper. -/
theorem proper_of_compile {entry : Entry} {filter : Filter}
    (hcompile : compile entry = .ok filter) : filter.Proper := by
  unfold compile at hcompile
  split at hcompile
  case h_1 =>
    obtain ⟨text, -, hparts⟩ := bind_eq_ok_iff.mp hcompile
    split at hparts
    next =>
      obtain rfl := pure_eq_ok_iff.mp hparts
      trivial
    next => exact absurd hparts throw_ne_ok
  case h_2 =>
    obtain ⟨text, -, hslashed⟩ := bind_eq_ok_iff.mp hcompile
    split at hslashed
    next =>
      obtain ⟨_, hthrow, -⟩ := bind_eq_ok_iff.mp hslashed
      exact absurd hthrow throw_ne_ok
    next hslash =>
      obtain rfl := pure_eq_ok_iff.mp hslashed
      rcases dropEndWhile_slash (not_not.mp hslash) with hempty | hrooted
      · exact Or.inl (by rw [hempty])
      · exact Or.inr (by rw [IsRooted, String.toList_ofList, hrooted])
  case h_3 =>
    obtain ⟨text, -, hpattern⟩ := bind_eq_ok_iff.mp hcompile
    split at hpattern
    next =>
      obtain rfl := pure_eq_ok_iff.mp hpattern
      trivial
    next => exact absurd hpattern throw_ne_ok
  case h_7 => simp at hcompile
  all_goals
    obtain ⟨text, -, hrest⟩ := bind_eq_ok_iff.mp hcompile
    obtain rfl := pure_eq_ok_iff.mp hrest
    trivial

/-- A path without a slash is one that the filter has put there, or one that it
was given. -/
theorem not_isRooted_apply_iff {filter : Filter} (hproper : filter.Proper)
    (captured : List (String × String)) (edits : Edits) :
    ¬ IsRooted (apply captured edits filter).path ↔
      (filter.replacesPath = true ∧
        ¬ IsRooted (apply captured edits filter).path) ∨
      (filter.keepsPath = true ∧ ¬ IsRooted edits.path) := by
  cases filter with
  | stripPrefix parts =>
      have hrooted : IsRooted (apply captured edits (stripPrefix parts)).path := by
        simp [IsRooted, apply, stripSegments]
      simp [hrooted, replacesPath, keepsPath]
  | prefixPath text =>
      rcases hproper with rfl | hrooted
      · simp [apply, replacesPath, keepsPath]
      · have hsome : text ≠ "" := by
          rintro rfl
          simp [IsRooted] at hrooted
        have hpath : IsRooted (apply captured edits (prefixPath text)).path :=
          hrooted.append edits.path
        simp [hpath, replacesPath, keepsPath, hsome]
  | replacePath pattern replacement => simp [replacesPath, keepsPath]
  | setPath template => simp [replacesPath, keepsPath]
  | addHeader name value => simp [apply, replacesPath, keepsPath]
  | removeHeader name => simp [apply, replacesPath, keepsPath]

theorem applyAll_concat (filters : List Filter) (filter : Filter)
    (captured : List (String × String)) (path : String) :
    applyAll (filters ++ [filter]) captured path =
      apply captured (applyAll filters captured path) filter := by
  rw [applyAll, List.foldl_append]
  rfl

/-- A chain loses the slash in front of a path at a filter that replaces the path,
and what comes after that filter leaves the path alone. -/
theorem not_isRooted_applyAll_iff {filters : List Filter}
    (hproper : ∀ filter ∈ filters, filter.Proper)
    (captured : List (String × String)) {path : String} (hpath : IsRooted path) :
    ¬ IsRooted (applyAll filters captured path).path ↔
      ∃ before filter after, filters = before ++ filter :: after ∧
        filter.replacesPath = true ∧
        ¬ IsRooted (applyAll (before ++ [filter]) captured path).path ∧
        ∀ later ∈ after, later.keepsPath = true := by
  induction filters using List.reverseRecOn with
  | nil => simp [applyAll, hpath]
  | append_singleton filters last ih =>
      have hlast : last.Proper := hproper last (by simp)
      have hrest := ih fun filter hfilter =>
        hproper filter (List.mem_append_left _ hfilter)
      rw [applyAll_concat, not_isRooted_apply_iff hlast, ← applyAll_concat, hrest]
      constructor
      · rintro (⟨hreplaces, hlost⟩ |
          ⟨hkeeps, before, filter, after, rfl, hreplaces, hlost, hafter⟩)
        · exact ⟨filters, last, [], rfl, hreplaces, hlost, by simp⟩
        · refine ⟨before, filter, after ++ [last], by simp, hreplaces, hlost, ?_⟩
          intro later hlater
          rcases List.mem_append.mp hlater with hlater | hlater
          · exact hafter later hlater
          · rwa [List.mem_singleton.mp hlater]
      · rintro ⟨before, filter, after, hsplit, hreplaces, hlost, hafter⟩
        rcases List.eq_nil_or_concat after with rfl | ⟨between, final, rfl⟩
        · obtain ⟨rfl, rfl⟩ : filters = before ∧ last = filter := by
            simpa using List.append_inj' hsplit rfl
          exact Or.inl ⟨hreplaces, hlost⟩
        · obtain ⟨rfl, rfl⟩ :
              filters = before ++ filter :: between ∧ last = final := by
            rw [List.concat_eq_append, ← List.cons_append, ← List.append_assoc]
              at hsplit
            simpa using List.append_inj' hsplit rfl
          refine Or.inr ⟨hafter last (by simp), before, filter, between, rfl,
            hreplaces, hlost, fun later hlater => hafter later (by simp [hlater])⟩

end Filter

end EdgeGateway.Route
