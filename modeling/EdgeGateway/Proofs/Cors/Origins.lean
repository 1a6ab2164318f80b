import EdgeGateway.Cors.Policy
import EdgeGateway.Proofs.Text.Letters

/-!
# Which origins an entry admits

An entry of the allow-list admits every origin if it is the wildcard, the origin
that it spells, and, if it has the wildcard in the place of a first label, every
origin with some label there.  `Admits` says so in terms of the two texts; the
rule that an entry is read as covers exactly those origins.  Neither side looks
at the case of letters.
-/

namespace EdgeGateway.Cors

/-! ## The first occurrence of a piece -/

/-- A text is cut at the first place where a piece occurs in it. -/
def CutAtFirst (piece text before after : List Char) : Prop :=
  text = before ++ piece ++ after ∧
    ∀ other rest, text = other ++ piece ++ rest → before.length ≤ other.length

theorem CutAtFirst.unique {piece text before after other rest : List Char}
    (hcut : CutAtFirst piece text before after)
    (hother : CutAtFirst piece text other rest) : before = other ∧ after = rest := by
  have hlength : before.length = other.length :=
    Nat.le_antisymm (hcut.2 _ _ hother.1) (hother.2 _ _ hcut.1)
  have hsame := hcut.1.symm.trans hother.1
  rw [List.append_assoc, List.append_assoc] at hsame
  obtain ⟨hbefore, hrest⟩ := List.append_inj hsame hlength
  exact ⟨hbefore, List.append_cancel_left hrest⟩

theorem splitAtPiece?_eq_none {piece text : List Char}
    (hnone : splitAtPiece? piece text = none) (before after : List Char) :
    text ≠ before ++ piece ++ after := by
  induction text generalizing before with
  | nil =>
      rintro hnil
      have hpiece : piece = [] := by simp_all
      simp [splitAtPiece?, hpiece] at hnone
  | cons char text ih =>
      rw [splitAtPiece?] at hnone
      split at hnone
      next => simp at hnone
      next hdrop =>
        rintro hsame
        cases before with
        | nil =>
            rw [List.nil_append] at hsame
            rw [hsame, Text.dropPiece?_append] at hdrop
            simp at hdrop
        | cons first before =>
            have htail : text = before ++ piece ++ after := (List.cons.inj hsame).2
            exact ih (by simpa using hnone) before htail

theorem cutAtFirst_of_splitAtPiece? {piece text before after : List Char}
    (hsplit : splitAtPiece? piece text = some (before, after)) :
    CutAtFirst piece text before after := by
  induction text generalizing before with
  | nil =>
      rw [splitAtPiece?] at hsplit
      split at hsplit
      next hpiece =>
        obtain ⟨rfl, rfl⟩ : [] = before ∧ [] = after := by simpa using hsplit
        exact ⟨by simp [hpiece], fun _ _ _ => Nat.zero_le _⟩
      next => simp at hsplit
  | cons char text ih =>
      rw [splitAtPiece?] at hsplit
      split at hsplit
      next rest hdrop =>
        obtain ⟨rfl, rfl⟩ : [] = before ∧ rest = after := by simpa using hsplit
        exact ⟨Text.eq_append_of_dropPiece? hdrop, fun _ _ _ => Nat.zero_le _⟩
      next hdrop =>
        obtain ⟨⟨earlier, later⟩, hrest, hpair⟩ := Option.map_eq_some_iff.mp hsplit
        obtain ⟨rfl, rfl⟩ : char :: earlier = before ∧ later = after := by simpa using hpair
        obtain ⟨htext, hfirst⟩ := ih hrest
        refine ⟨by rw [htext]; rfl, fun other rest hother => ?_⟩
        cases other with
        | nil =>
            rw [List.nil_append] at hother
            rw [hother, Text.dropPiece?_append] at hdrop
            simp at hdrop
        | cons first other =>
            exact Nat.succ_le_succ (hfirst other rest (List.cons.inj hother).2)

/-! ## Entries -/

/-- Whether an entry of the allow-list stands for an origin.  Both are compared in
their normal forms. -/
def Admits (entry origin : String) : Prop :=
  normalizeOrigin entry = "*" ∨
    normalizeOrigin entry = normalizeOrigin origin ∨
    ∃ scheme host label : List Char,
      CutAtFirst "://*.".toList (normalizeOrigin entry).toList scheme host ∧
      label ≠ [] ∧
      (normalizeOrigin origin).toList = scheme ++ "://".toList ++ label ++ '.' :: host

theorem endsProperly_iff {suffix text : List Char} :
    OriginRule.endsProperly suffix text = true ↔
      ∃ label, label ≠ [] ∧ text = label ++ suffix := by
  simp only [OriginRule.endsProperly, Bool.and_eq_true, decide_eq_true_eq,
    List.isSuffixOf_iff_suffix]
  constructor
  · rintro ⟨hlength, label, rfl⟩
    refine ⟨label, ?_, rfl⟩
    rintro rfl
    simp at hlength
  · rintro ⟨label, hlabel, rfl⟩
    have := List.length_pos_iff.mpr hlabel
    exact ⟨by simpa using this, label, rfl⟩

theorem covers_subdomain_iff {origin : String} {scheme host : List Char} :
    (OriginRule.subdomain (String.ofList scheme) (String.ofList ('.' :: host))).covers
        origin = true ↔
      ∃ label, label ≠ [] ∧
        origin.toList = scheme ++ "://".toList ++ label ++ '.' :: host := by
  simp only [OriginRule.covers, String.toList_ofList]
  constructor
  · intro hcovers
    split at hcovers
    next rest hdrop =>
      obtain ⟨label, hlabel, rfl⟩ := endsProperly_iff.mp hcovers
      exact ⟨label, hlabel, by rw [Text.eq_append_of_dropPiece? hdrop, List.append_assoc _ label]⟩
    next => simp at hcovers
  · rintro ⟨label, hlabel, horigin⟩
    rw [horigin, List.append_assoc _ label, Text.dropPiece?_append]
    exact endsProperly_iff.mpr ⟨label, hlabel, rfl⟩

/-- A rule with a wildcard label covers its own spelling, with `*` for the label. -/
theorem exists_label_of_self {text scheme host : List Char}
    (hcut : CutAtFirst "://*.".toList text scheme host) :
    ∃ label, label ≠ [] ∧ text = scheme ++ "://".toList ++ label ++ '.' :: host :=
  ⟨['*'], by simp, by rw [hcut.1]; simp⟩

/-- The three readings of an entry. -/
theorem ofText_cases (entry : String) :
    (normalizeOrigin entry = "*" ∧ OriginRule.ofText entry = .any) ∨
    (normalizeOrigin entry ≠ "*" ∧
      ∃ scheme host, CutAtFirst "://*.".toList (normalizeOrigin entry).toList scheme host ∧
        OriginRule.ofText entry =
          .subdomain (String.ofList scheme) (String.ofList ('.' :: host))) ∨
    (normalizeOrigin entry ≠ "*" ∧
      (∀ scheme host, ¬ CutAtFirst "://*.".toList (normalizeOrigin entry).toList scheme host) ∧
        OriginRule.ofText entry = .exact (normalizeOrigin entry)) := by
  by_cases hany : normalizeOrigin entry = "*"
  · exact Or.inl ⟨hany, by simp only [OriginRule.ofText, if_pos hany]⟩
  refine Or.inr ?_
  cases hsplit : splitAtPiece? "://*.".toList (normalizeOrigin entry).toList with
  | some found =>
      obtain ⟨scheme, host⟩ := found
      exact Or.inl ⟨hany, scheme, host, cutAtFirst_of_splitAtPiece? hsplit,
        by simp only [OriginRule.ofText, if_neg hany, hsplit]⟩
  | none =>
      exact Or.inr ⟨hany,
        fun scheme host hcut => splitAtPiece?_eq_none hsplit scheme host hcut.1,
        by simp only [OriginRule.ofText, if_neg hany, hsplit]⟩

theorem covers_ofText_iff (entry origin : String) :
    (OriginRule.ofText entry).covers (normalizeOrigin origin) = true ↔
      Admits entry origin := by
  rcases ofText_cases entry with
    ⟨hany, hrule⟩ | ⟨hany, scheme, host, hcut, hrule⟩ | ⟨hany, hnone, hrule⟩
  · exact iff_of_true (by rw [hrule]; rfl) (Or.inl hany)
  · rw [hrule, covers_subdomain_iff]
    constructor
    · rintro ⟨label, hlabel, horigin⟩
      exact Or.inr (Or.inr ⟨scheme, host, label, hcut, hlabel, horigin⟩)
    · rintro (hstar | hsame | ⟨scheme', host', label, hcut', hlabel, horigin⟩)
      · exact absurd hstar hany
      · rw [← hsame]
        exact exists_label_of_self hcut
      · obtain ⟨rfl, rfl⟩ := hcut.unique hcut'
        exact ⟨label, hlabel, horigin⟩
  · rw [hrule, OriginRule.covers, decide_eq_true_iff]
    constructor
    · exact fun hsame => Or.inr (Or.inl hsame)
    · rintro (hstar | hsame | ⟨scheme, host, -, hcut, -⟩)
      · exact absurd hstar hany
      · exact hsame
      · exact absurd hcut (hnone scheme host)

theorem ofText_eq_any_iff {entry : String} :
    OriginRule.ofText entry = .any ↔ normalizeOrigin entry = "*" := by
  rcases ofText_cases entry with
    ⟨hany, hrule⟩ | ⟨hany, scheme, host, -, hrule⟩ | ⟨hany, -, hrule⟩
  · exact iff_of_true hrule hany
  · exact iff_of_false (by rw [hrule]; nofun) hany
  · exact iff_of_false (by rw [hrule]; nofun) hany

/-! ## Letters -/

theorem normalizeOrigin_lowerAscii (origin : String) :
    normalizeOrigin (Text.lowerAscii origin) = normalizeOrigin origin := by
  have hslash : ∀ char, decide (Text.lowerAsciiChar char = '/') = decide (char = '/') :=
    fun char => decide_eq_decide.mpr (Text.lowerAsciiChar_eq_iff (by decide))
  have hidem : Text.lowerAsciiChar ∘ Text.lowerAsciiChar = Text.lowerAsciiChar :=
    funext Text.lowerAsciiChar_idem
  rw [normalizeOrigin, normalizeOrigin, Text.lowerAscii, String.toList_ofList,
    Text.trimChars_map_lowerAsciiChar, Text.dropEndWhile_map hslash, List.map_map, hidem]

theorem normalizeOrigin_congr {left right : String}
    (hsame : Text.lowerAscii left = Text.lowerAscii right) :
    normalizeOrigin left = normalizeOrigin right := by
  rw [← normalizeOrigin_lowerAscii, hsame, normalizeOrigin_lowerAscii]

theorem Admits.congr {entry other origin : String} (hadmits : Admits entry origin)
    (hsame : Text.lowerAscii entry = Text.lowerAscii other) : Admits other origin := by
  unfold Admits at hadmits ⊢
  rwa [← normalizeOrigin_congr hsame]

end EdgeGateway.Cors
