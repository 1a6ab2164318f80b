import EdgeGateway.Proofs.Cors.Question
import Mathlib.Data.List.Sort
import Mathlib.Data.Set.Defs
import Mathlib.Data.String.Basic

/-!
# The headers that a preflight asks for

A value asks for a set of headers: its parts between commas, trimmed and in lower
case, without those that are empty.  The normal form is the ascending list of this
set, so it forgets the order, the case and the repetitions of the parts and nothing
else.  The key of a preflight holds the list as one text, from which the list can be
read again.
-/

namespace EdgeGateway.Cors

open Text (lowerAscii trim join split)

/-- The headers that a value asks for. -/
def askedNames (value : Option String) : Set String :=
  {name | name ≠ "" ∧ ∃ parts, value = some (join "," parts) ∧
    (∀ part ∈ parts, ',' ∉ part.toList) ∧ ∃ part ∈ parts, lowerAscii (trim part) = name}

/-! ## The set of a list -/

theorem normalizeRequestedHeaders_some (text : String) :
    normalizeRequestedHeaders (some text) =
      (((split ',' text).map fun part => lowerAscii (trim part)).filter
        (· ≠ "")).foldr insertName [] := by
  have hpieces : (split ',' text).map (fun part => lowerAscii (trim part)) =
      (Text.splitAtEvery ',' text.toList).map fun piece =>
        lowerAscii (String.ofList (Text.trimChars piece)) := by
    simp [split, trim]
  rw [hpieces]
  rfl

theorem mem_normalizeRequestedHeaders {value : Option String} {name : String} :
    name ∈ normalizeRequestedHeaders value ↔ name ∈ askedNames value := by
  cases value with
  | none =>
      have hnone : normalizeRequestedHeaders none = [] := rfl
      rw [hnone]
      exact ⟨nofun, fun ⟨_, _, habsent, _⟩ => nomatch habsent⟩
  | some text =>
      rw [normalizeRequestedHeaders_some, mem_foldr_insertName, List.mem_filter,
        List.mem_map, decide_eq_true_eq]
      constructor
      · rintro ⟨⟨part, hpart, hname⟩, hsome⟩
        exact ⟨hsome, split ',' text, congrArg some (Text.join_split ',' text).symm,
          Text.not_mem_of_mem_split text, part, hpart, hname⟩
      · rintro ⟨hsome, parts, htext, hwhole, part, hpart, hname⟩
        have hsplit : split ',' text = parts := by
          rw [Option.some.inj htext]
          exact Text.split_join (List.ne_nil_of_mem hpart) hwhole
        exact ⟨⟨part, hsplit ▸ hpart, hname⟩, hsome⟩

/-! ## The list of a set -/

theorem ascending_insertName {names : List String} (hascending : names.Pairwise (· < ·))
    (name : String) : (insertName name names).Pairwise (· < ·) := by
  induction names with
  | nil => exact List.pairwise_singleton _ _
  | cons known names ih =>
      obtain ⟨hknown, hrest⟩ := List.pairwise_cons.mp hascending
      rw [insertName]
      split
      next => exact hascending
      next hother =>
        split
        next hless =>
          apply List.pairwise_cons.mpr
          refine ⟨List.forall_mem_cons.mpr ⟨hless, fun later hlater => ?_⟩, hascending⟩
          exact lt_trans hless (hknown later hlater)
        next hnotless =>
          apply List.pairwise_cons.mpr
          refine ⟨fun later hlater => ?_, ih hrest⟩
          rcases mem_insertName.mp hlater with rfl | hlater
          · exact lt_of_le_of_ne (not_lt.mp hnotless) (Ne.symm hother)
          · exact hknown later hlater

theorem ascending_normalizeRequestedHeaders (value : Option String) :
    (normalizeRequestedHeaders value).Pairwise (· < ·) := by
  rw [normalizeRequestedHeaders]
  generalize List.filter _ _ = names
  induction names with
  | nil => exact .nil
  | cons name names ih => exact ascending_insertName ih name

theorem normalizeRequestedHeaders_eq_iff {value other : Option String} :
    normalizeRequestedHeaders value = normalizeRequestedHeaders other ↔
      askedNames value = askedNames other := by
  constructor
  · intro hsame
    ext name
    rw [← mem_normalizeRequestedHeaders, hsame, mem_normalizeRequestedHeaders]
  · intro hsame
    apply (ascending_normalizeRequestedHeaders value).eq_of_mem_iff
      (ascending_normalizeRequestedHeaders other)
    intro name
    rw [mem_normalizeRequestedHeaders, hsame, mem_normalizeRequestedHeaders]

/-! ## Lists as texts -/

theorem lowerAscii_trim_of_mem {value : Option String} {name : String}
    (hname : name ∈ normalizeRequestedHeaders value) : lowerAscii (trim name) = name := by
  obtain ⟨-, -, -, -, part, -, rfl⟩ := mem_normalizeRequestedHeaders.mp hname
  calc
    lowerAscii (trim (lowerAscii (trim part))) =
        lowerAscii (lowerAscii (trim (trim part))) := by rw [Text.trim_lowerAscii]
    _ = lowerAscii (trim part) := by rw [Text.lowerAscii_lowerAscii, Text.trim_trim]

theorem normalizeRequestedHeaders_join (value : Option String) :
    normalizeRequestedHeaders (some (join "," (normalizeRequestedHeaders value))) =
      normalizeRequestedHeaders value := by
  have hproper := requested_proper value
  by_cases hnone : normalizeRequestedHeaders value = []
  · -- an empty list has the text of one empty part, which asks for nothing
    rw [hnone]
    rfl
  have hsplit : split ',' (join "," (normalizeRequestedHeaders value)) =
      normalizeRequestedHeaders value :=
    Text.split_join hnone fun name hname => (hproper name hname).2
  have hfixed : (normalizeRequestedHeaders value).map (fun name => lowerAscii (trim name)) =
      normalizeRequestedHeaders value :=
    (List.map_congr_left fun name hname => lowerAscii_trim_of_mem hname).trans
      (List.map_id _)
  apply (ascending_normalizeRequestedHeaders _).eq_of_mem_iff
    (ascending_normalizeRequestedHeaders value)
  intro name
  rw [normalizeRequestedHeaders_some, mem_foldr_insertName, hsplit, hfixed, List.mem_filter,
    decide_eq_true_eq]
  exact and_iff_left_of_imp fun hname => (hproper name hname).1

/-- Different lists have different texts. -/
theorem join_requested_eq_iff {value other : Option String} :
    join "," (normalizeRequestedHeaders value) = join "," (normalizeRequestedHeaders other) ↔
      normalizeRequestedHeaders value = normalizeRequestedHeaders other := by
  have hcomma : "," = String.singleton ',' := rfl
  rw [hcomma]
  exact ⟨Text.join_injective (requested_proper value) (requested_proper other),
    congrArg (join _)⟩

/-- Two values, or their absence, have the same list of requested headers exactly if
they ask for the same set.  The list has the headers of this set in ascending order;
none of them is empty or holds a comma, and the text of the list gives the list
again.  So keys with the same origin, method and path are the same exactly if the
sets are. -/
theorem requested_headers_canonical (value other : Option String) :
    (normalizeRequestedHeaders value = normalizeRequestedHeaders other ↔
        askedNames value = askedNames other) ∧
      (∀ name, name ∈ normalizeRequestedHeaders value ↔ name ∈ askedNames value) ∧
      (normalizeRequestedHeaders value).Pairwise (· < ·) ∧
      (∀ name ∈ normalizeRequestedHeaders value, name ≠ "" ∧ ',' ∉ name.toList) ∧
      normalizeRequestedHeaders (some (join "," (normalizeRequestedHeaders value))) =
        normalizeRequestedHeaders value ∧
      ∀ origin method path origin' method' path',
        let key := PreflightKey.of origin method path (normalizeRequestedHeaders value)
        let rival := PreflightKey.of origin' method' path' (normalizeRequestedHeaders other)
        key.origin = rival.origin → key.method = rival.method → key.path = rival.path →
          (key = rival ↔ askedNames value = askedNames other) := by
  refine ⟨normalizeRequestedHeaders_eq_iff, fun _ => mem_normalizeRequestedHeaders,
    ascending_normalizeRequestedHeaders value, requested_proper value,
    normalizeRequestedHeaders_join value, ?_⟩
  intro origin method path origin' method' path' key rival horigin hmethod hpath
  rw [← normalizeRequestedHeaders_eq_iff, ← join_requested_eq_iff, PreflightKey.mk.injEq]
  exact ⟨fun hkeys => hkeys.2.2.2, fun htexts => ⟨horigin, hmethod, hpath, htexts⟩⟩

/-- One set of headers in two spellings. -/
theorem two_spellings_one_key :
    let value := some " Content-Type ,authorization,, X-Tenant-Id"
    let other := some "x-tenant-id,AUTHORIZATION, authorization ,\tcontent-type,"
    let key := PreflightKey.of "https://App.example.com/" " post" "/orders"
      (normalizeRequestedHeaders value)
    let rival := PreflightKey.of "https://app.example.com" "POST" "/orders"
      (normalizeRequestedHeaders other)
    normalizeRequestedHeaders value = ["authorization", "content-type", "x-tenant-id"] ∧
      "x-tenant-id" ∈ askedNames value ∧ askedNames value = askedNames other ∧
      key.origin = rival.origin ∧ key.method = rival.method ∧ key.path = rival.path ∧
      key = rival ∧
      normalizeRequestedHeaders (some key.headers) = normalizeRequestedHeaders value := by
  intro value other key rival
  have hvalue : normalizeRequestedHeaders value =
      ["authorization", "content-type", "x-tenant-id"] := by decide +kernel
  have hother : normalizeRequestedHeaders other =
      ["authorization", "content-type", "x-tenant-id"] := by decide +kernel
  have horigin : key.origin = rival.origin := by decide +kernel
  have hmethod : key.method = rival.method := by decide +kernel
  have hpath : key.path = rival.path := (rfl : "/orders" = "/orders")
  obtain ⟨hsets, hmembers, -, -, hagain, hkeys⟩ := requested_headers_canonical value other
  have hsame := hsets.mp (hvalue.trans hother.symm)
  refine ⟨hvalue, ?_, hsame, horigin, hmethod, hpath, ?_, hagain⟩
  · exact (hmembers "x-tenant-id").mp (by rw [hvalue]; decide)
  · exact (hkeys _ _ _ _ _ _ horigin hmethod hpath).mpr hsame

end EdgeGateway.Cors
