import EdgeGateway.Net.Address
import EdgeGateway.Proofs.Net.Host

/-!
# Addresses are read as they are written

Four octets are read from their numerals with dots between them, and from no other text.
Eight groups are read from each of their spellings: with all groups, or with a gap for
some of them, and with octets for the last two or without.
-/

namespace EdgeGateway.Net

open Text (glue splitAtEvery)

namespace IpAddress

/-! ## Four octets -/

theorem readOctet?_eq_some_iff {digits : List Char} {octet : Nat} :
    readOctet? digits = some octet ↔ octet < 256 ∧ digits = Text.decimalDigits octet := by
  constructor
  · intro hread
    unfold readOctet? at hread
    split at hread
    next => simp at hread
    next hshape =>
      split at hread
      next => simp at hread
      next hzero =>
        obtain ⟨hle, rfl⟩ :
            Text.digitsValue digits ≤ 255 ∧ Text.digitsValue digits = octet := by
          simpa using hread
        obtain ⟨hsome, -, hdigits⟩ :
            digits ≠ [] ∧ digits.length ≤ 3 ∧
              ∀ char ∈ digits, Text.isAsciiDigit char = true := by
          simpa using hshape
        have hlength : digits.head? = some '0' → digits.length = 1 := by
          intro hhead
          have hpositive := List.length_pos_of_ne_nil hsome
          have hshort := not_and.mp hzero hhead
          omega
        exact ⟨by omega, (Text.decimalDigits_digitsValue hsome hdigits hlength).symm⟩
  · rintro ⟨hlt, rfl⟩
    have hall : ∀ octet < 256, readOctet? (Text.decimalDigits octet) = some octet := by
      decide +kernel
    exact hall octet hlt

theorem mapM_readOctet?_eq_some_iff {parts : List (List Char)} {octets : List Nat} :
    parts.mapM readOctet? = some octets ↔
      (∀ octet ∈ octets, octet < 256) ∧ parts = octets.map Text.decimalDigits := by
  induction parts generalizing octets with
  | nil => cases octets <;> simp
  | cons part parts ih =>
      simp only [List.mapM_cons, Option.bind_eq_bind, Option.pure_def,
        Option.bind_eq_some_iff, Option.some.injEq, ih, readOctet?_eq_some_iff]
      constructor
      · rintro ⟨octet, ⟨hlt, rfl⟩, rest, ⟨hrest, rfl⟩, rfl⟩
        exact ⟨List.forall_mem_cons.mpr ⟨hlt, hrest⟩, rfl⟩
      · rintro ⟨hall, hparts⟩
        obtain ⟨octet, rest, rfl, rfl, rfl⟩ := List.map_eq_cons_iff.mp hparts.symm
        obtain ⟨hlt, hrest⟩ := List.forall_mem_cons.mp hall
        exact ⟨octet, ⟨hlt, rfl⟩, rest, ⟨hrest, rfl⟩, rfl⟩

theorem readFour?_eq_some_iff {text : List Char} {octets : List Nat} :
    readFour? text = some octets ↔
      octets.length = 4 ∧ (∀ octet ∈ octets, octet < 256) ∧
        text = glue ['.'] (octets.map Text.decimalDigits) := by
  have hdots : ∀ part ∈ octets.map Text.decimalDigits, '.' ∉ part := by
    intro part hpart hdot
    obtain ⟨octet, -, rfl⟩ := List.mem_map.mp hpart
    exact absurd (Text.isAsciiDigit_of_mem_decimalDigits hdot) (by decide)
  simp only [readFour?]
  constructor
  · intro hread
    split at hread
    next => simp at hread
    next hlength =>
      obtain ⟨hoctets, hparts⟩ := mapM_readOctet?_eq_some_iff.mp hread
      refine ⟨?_, hoctets, by rw [← hparts, Text.glue_splitAtEvery]⟩
      rwa [hparts, List.length_map, not_not] at hlength
  · rintro ⟨hlength, hoctets, rfl⟩
    have hsome : octets.map Text.decimalDigits ≠ [] := by
      rw [ne_eq, List.map_eq_nil_iff]
      rintro rfl
      simp at hlength
    rw [Text.splitAtEvery_glue hsome hdots, if_neg (by simp [hlength])]
    exact mapM_readOctet?_eq_some_iff.mpr ⟨hoctets, rfl⟩

theorem isSome_readFour?_iff {text : List Char} :
    (readFour? text).isSome = true ↔ IsFourOctets text := by
  rw [Option.isSome_iff_exists]
  simp only [readFour?_eq_some_iff, IsFourOctets, Text.decimal, String.toList_ofList]

theorem isFourOctets_of_readFour? {text : List Char} {octets : List Nat}
    (hread : readFour? text = some octets) : IsFourOctets text :=
  isSome_readFour?_iff.mp (Option.isSome_of_eq_some hread)

/-! ## Eight groups -/

theorem isSome_foldl_hexDigit? (digits : List Char) (start : Option Nat) :
    (digits.foldl (fun value char =>
        value.bind fun total => (Unicode.hexDigit? char).map (total * 16 + ·)) start).isSome =
      (start.isSome && digits.all isHexDigit) := by
  induction digits generalizing start with
  | nil => simp
  | cons char digits ih =>
      rw [List.foldl_cons, ih]
      cases start with
      | none => simp
      | some total => simp [isHexDigit]

theorem isSome_readGroup?_iff {digits : List Char} :
    (readGroup? digits).isSome = true ↔ IsGroup digits := by
  unfold readGroup? Unicode.hexValue? IsGroup
  split
  next hlong => simp [Nat.not_le.mpr hlong]
  next hshort =>
    split
    next hempty => simp [hempty]
    next hsome =>
      rw [isSome_foldl_hexDigit?, Option.isSome_some, Bool.true_and, List.all_eq_true]
      simp [hsome, Nat.not_lt.mp hshort]

theorem readGroup?_of_isFourOctets {text : List Char} (hoctets : IsFourOctets text) :
    readGroup? text = none := by
  rw [← Option.not_isSome_iff_eq_none, isSome_readGroup?_iff]
  exact fun hgroup => absurd (hgroup.2.2 '.' hoctets.dot_mem) (by decide)

theorem readGroups?_group {tail : Bool} {digits : List Char} {group : Nat}
    (hgroup : readGroup? digits = some group) (pieces : List (List Char)) :
    readGroups? tail (digits :: pieces) =
      (readGroups? tail pieces).map (group :: ·) := by
  cases pieces with
  | nil => simp [readGroups?, hgroup]
  | cons next pieces =>
      rw [Option.map_eq_bind]
      simp [readGroups?, hgroup]

theorem readGroups?_octets {tail : Bool} {text : List Char} (hgroup : readGroup? text = none) :
    readGroups? tail [text] =
      if tail then
        match readFour? text with
        | some [a, b, c, d] => some [a * 256 + b, c * 256 + d]
        | _ => none
      else none := by
  unfold readGroups?
  split
  next group hsome => simp [hgroup] at hsome
  next => rfl

/-- The first piece is a group, or it stands alone and is four octets. -/
theorem readGroups?_cons_eq_some {tail : Bool} {first : List Char}
    {pieces : List (List Char)} {groups : List Nat}
    (hread : readGroups? tail (first :: pieces) = some groups) :
    (IsGroup first ∧ ∃ rest, readGroups? tail pieces = some rest ∧
      groups.length = rest.length + 1) ∨
    (tail = true ∧ IsFourOctets first ∧ pieces = [] ∧ groups.length = 2) := by
  cases hfirst : readGroup? first with
  | some group =>
      rw [readGroups?_group hfirst, Option.map_eq_some_iff] at hread
      obtain ⟨rest, hrest, rfl⟩ := hread
      exact Or.inl ⟨isSome_readGroup?_iff.mp (Option.isSome_of_eq_some hfirst), rest,
        hrest, rfl⟩
  | none =>
      cases pieces with
      | cons next pieces => simp [readGroups?, hfirst] at hread
      | nil =>
          rw [readGroups?_octets hfirst] at hread
          split at hread
          next htail =>
            split at hread
            next hfour =>
              obtain rfl := Option.some.inj hread
              exact Or.inr ⟨htail, isFourOctets_of_readFour? hfour, rfl, rfl⟩
            next => simp at hread
          next => simp at hread

theorem fills_of_readGroups? {pieces : List (List Char)} {groups : List Nat}
    (hread : readGroups? true pieces = some groups) : Fills pieces groups.length := by
  induction pieces generalizing groups with
  | nil =>
      obtain rfl := Option.some.inj hread
      exact .nil
  | cons first pieces ih =>
      rcases readGroups?_cons_eq_some hread with
        ⟨hgroup, rest, hrest, hlength⟩ | ⟨-, hoctets, rfl, hlength⟩
      · rw [hlength]
        exact .group hgroup (ih hrest)
      · rw [hlength]
        exact .octets hoctets

theorem groups_of_readGroups? {pieces : List (List Char)} {groups : List Nat}
    (hread : readGroups? false pieces = some groups) :
    (∀ digits ∈ pieces, IsGroup digits) ∧ groups.length = pieces.length := by
  induction pieces generalizing groups with
  | nil =>
      obtain rfl := Option.some.inj hread
      simp
  | cons first pieces ih =>
      rcases readGroups?_cons_eq_some hread with ⟨hgroup, rest, hrest, hlength⟩ | ⟨htail, -⟩
      · obtain ⟨hgroups, hcount⟩ := ih hrest
        exact ⟨List.forall_mem_cons.mpr ⟨hgroup, hgroups⟩, by rw [hlength, hcount]; rfl⟩
      · exact absurd htail Bool.false_ne_true

theorem readGroups?_of_fills {pieces : List (List Char)} {count : Nat}
    (hfills : Fills pieces count) :
    ∃ groups, readGroups? true pieces = some groups ∧ groups.length = count := by
  induction hfills with
  | nil => exact ⟨[], rfl, rfl⟩
  | octets hoctets =>
      obtain ⟨octets, hread⟩ := Option.isSome_iff_exists.mp (isSome_readFour?_iff.mpr hoctets)
      have hlength := (readFour?_eq_some_iff.mp hread).1
      match octets, hlength with
      | [a, b, c, d], _ =>
          refine ⟨[a * 256 + b, c * 256 + d], ?_, rfl⟩
          rw [readGroups?_octets (readGroup?_of_isFourOctets hoctets), hread]
          rfl
  | group hgroup _ ih =>
      obtain ⟨group, hread⟩ := Option.isSome_iff_exists.mp (isSome_readGroup?_iff.mpr hgroup)
      obtain ⟨groups, hgroups, hcount⟩ := ih
      refine ⟨group :: groups, ?_, by rw [List.length_cons, hcount]⟩
      rw [readGroups?_group hread, hgroups]
      rfl

theorem readGroups?_of_groups {pieces : List (List Char)}
    (hpieces : ∀ digits ∈ pieces, IsGroup digits) :
    ∃ groups, readGroups? false pieces = some groups ∧
      groups.length = pieces.length := by
  induction pieces with
  | nil => exact ⟨[], rfl, rfl⟩
  | cons first pieces ih =>
      obtain ⟨hfirst, hrest⟩ := List.forall_mem_cons.mp hpieces
      obtain ⟨group, hread⟩ := Option.isSome_iff_exists.mp (isSome_readGroup?_iff.mpr hfirst)
      obtain ⟨groups, hgroups, hcount⟩ := ih hrest
      refine ⟨group :: groups, ?_, by rw [List.length_cons, List.length_cons, hcount]⟩
      rw [readGroups?_group hread, hgroups]
      rfl

/-! ## The gap -/

theorem splitAtGap?_gap (rest : List Char) :
    splitAtGap? (':' :: ':' :: rest) = some ([], rest) := by
  rw [splitAtGap?]

theorem splitAtGap?_cons {char : Char} {text : List Char}
    (hother : char = ':' → text.head? ≠ some ':') :
    splitAtGap? (char :: text) =
      (splitAtGap? text).map fun (before, after) => (char :: before, after) := by
  rw [splitAtGap?]
  rintro rest rfl rfl
  exact hother rfl rfl

theorem eq_append_of_splitAtGap? {text before after : List Char}
    (hsplit : splitAtGap? text = some (before, after)) :
    text = before ++ [':', ':'] ++ after := by
  induction text generalizing before with
  | nil => simp [splitAtGap?] at hsplit
  | cons char text ih =>
      by_cases hgap : char = ':' ∧ text.head? = some ':'
      · obtain ⟨rfl, hhead⟩ := hgap
        obtain ⟨rest, rfl⟩ := List.head?_eq_some_iff.mp hhead
        rw [splitAtGap?_gap] at hsplit
        obtain ⟨rfl, rfl⟩ : [] = before ∧ rest = after := by simpa using hsplit
        rfl
      · rw [splitAtGap?_cons (not_and.mp hgap)] at hsplit
        obtain ⟨⟨earlier, later⟩, hrest, hpair⟩ := Option.map_eq_some_iff.mp hsplit
        obtain ⟨rfl, rfl⟩ := Prod.mk.inj hpair
        rw [ih hrest, List.cons_append, List.cons_append]

/-- The first gap is found behind text that has none, also with one colon more. -/
theorem splitAtGap?_append {front : List Char} (hfront : splitAtGap? (front ++ [':']) = none)
    (rest : List Char) :
    splitAtGap? (front ++ [':', ':'] ++ rest) = some (front, rest) := by
  induction front with
  | nil => exact splitAtGap?_gap rest
  | cons char front ih =>
      have hother : char = ':' → (front ++ [':']).head? ≠ some ':' := by
        rintro rfl hhead
        obtain ⟨tail, htail⟩ := List.head?_eq_some_iff.mp hhead
        rw [List.cons_append, htail, splitAtGap?_gap] at hfront
        simp at hfront
      have hsame : (front ++ [':', ':'] ++ rest).head? = (front ++ [':']).head? := by
        cases front <;> rfl
      rw [List.cons_append, splitAtGap?_cons hother, Option.map_eq_none_iff] at hfront
      rw [List.cons_append, List.cons_append, splitAtGap?_cons (hsame ▸ hother), ih hfront]
      rfl

theorem splitAtGap?_eq_none {text : List Char}
    (hnone : ∀ before after, text ≠ before ++ [':', ':'] ++ after) :
    splitAtGap? text = none := by
  cases hsplit : splitAtGap? text with
  | none => rfl
  | some sides => exact absurd (eq_append_of_splitAtGap? hsplit) (hnone sides.1 sides.2)

/-- Pieces have no gap between them, nor with one colon behind them. -/
theorem glue_ne_gap {pieces : List (List Char)}
    (hpieces : ∀ piece ∈ pieces, piece ≠ [] ∧ ':' ∉ piece) (before after : List Char) :
    glue [':'] pieces ++ [':'] ≠ before ++ [':', ':'] ++ after := by
  intro htext
  by_cases hnone : pieces = []
  · have hlength := congrArg List.length htext
    simp [hnone, glue] at hlength
    omega
  · -- The gap would be an empty piece before the last one.
    have hgap : splitAtEvery ':' (':' :: after) = [] :: splitAtEvery ':' after := by
      rw [splitAtEvery, if_pos rfl]
    have hcut := congrArg (splitAtEvery ':') htext
    rw [Text.splitAtEvery_append, Text.splitAtEvery_glue hnone fun piece hpiece =>
        (hpieces piece hpiece).2, List.append_assoc, List.cons_append, List.cons_append,
      Text.splitAtEvery_append, List.nil_append, hgap] at hcut
    obtain ⟨init, last, hafter⟩ := List.eq_nil_or_concat (splitAtEvery ':' after)
      |>.resolve_left (Text.splitAtEvery_ne_nil ':' after)
    rw [hafter, List.concat_eq_append, ← List.cons_append, ← List.append_assoc] at hcut
    obtain ⟨hsame, -⟩ := List.append_inj' hcut rfl
    exact absurd rfl (hpieces [] (by simp [hsame])).1

/-! ## Both -/

theorem exists_pieces_of_groupsOf? {tail : Bool} {text : List Char} {groups : List Nat}
    (hread : groupsOf? tail text = some groups) :
    ∃ pieces, text = glue [':'] pieces ∧ readGroups? tail pieces = some groups := by
  unfold groupsOf? at hread
  split at hread
  next hempty => exact ⟨[], hempty, hread⟩
  next => exact ⟨splitAtEvery ':' text, (Text.glue_splitAtEvery ':' text).symm, hread⟩

theorem groupsOf?_glue {tail : Bool} {pieces : List (List Char)}
    (hpieces : ∀ piece ∈ pieces, piece ≠ [] ∧ ':' ∉ piece) :
    groupsOf? tail (glue [':'] pieces) = readGroups? tail pieces := by
  unfold groupsOf?
  split
  next hempty =>
    rcases Text.glue_eq_nil_iff.mp hempty with rfl | rfl
    · rfl
    · exact absurd rfl (hpieces [] List.mem_cons_self).1
  next hsome =>
    have hnonempty : pieces ≠ [] := by
      rintro rfl
      exact hsome rfl
    rw [Text.splitAtEvery_glue hnonempty fun piece hpiece => (hpieces piece hpiece).2]

theorem isEightGroups_of_readSix? {text : List Char} {groups : List Nat}
    (hread : readSix? text = some groups) : IsEightGroups text := by
  unfold readSix? at hread
  split at hread
  next =>
    obtain ⟨all, hall, hcount⟩ := Option.bind_eq_some_iff.mp hread
    obtain ⟨pieces, rfl, hpieces⟩ := exists_pieces_of_groupsOf? hall
    split at hcount
    next hlength => exact .whole (hlength ▸ fills_of_readGroups? hpieces)
    next => simp at hcount
  next before after hsplit =>
    rw [eq_append_of_splitAtGap? hsplit]
    obtain ⟨front, hfront, hrest⟩ := Option.bind_eq_some_iff.mp hread
    obtain ⟨back, hback, hcount⟩ := Option.bind_eq_some_iff.mp hrest
    obtain ⟨early, rfl, hearly⟩ := exists_pieces_of_groupsOf? hfront
    obtain ⟨late, rfl, hlate⟩ := exists_pieces_of_groupsOf? hback
    obtain ⟨hgroups, hlength⟩ := groups_of_readGroups? hearly
    dsimp only at hcount
    split at hcount
    next hle => exact .gapped hgroups (fills_of_readGroups? hlate) (hlength ▸ hle)
    next => simp at hcount

theorem piece_of_isGroup {digits : List Char} (hgroup : IsGroup digits) :
    digits ≠ [] ∧ ':' ∉ digits :=
  ⟨hgroup.1, fun hcolon => absurd (hgroup.isBare ':' hcolon) (by decide)⟩

theorem piece_of_fills {pieces : List (List Char)} {count : Nat}
    (hfills : Fills pieces count) : ∀ piece ∈ pieces, piece ≠ [] ∧ ':' ∉ piece := by
  induction hfills with
  | nil => simp
  | octets hoctets =>
      refine List.forall_mem_singleton.mpr ⟨List.ne_nil_of_mem hoctets.dot_mem, ?_⟩
      exact fun hcolon => absurd (hoctets.isBare ':' hcolon) (by decide)
  | group hgroup _ ih => exact List.forall_mem_cons.mpr ⟨piece_of_isGroup hgroup, ih⟩

theorem isSome_readSix?_of_isEightGroups {text : List Char} (hgroups : IsEightGroups text) :
    (readSix? text).isSome = true := by
  cases hgroups with
  | @whole pieces hfills =>
      obtain ⟨groups, hread, hlength⟩ := readGroups?_of_fills hfills
      have hpieces := piece_of_fills hfills
      have hgap : splitAtGap? (glue [':'] pieces) = none :=
        splitAtGap?_eq_none fun before after htext =>
          glue_ne_gap hpieces before (after ++ [':']) (by rw [htext, List.append_assoc])
      rw [readSix?, hgap]
      simp [groupsOf?_glue hpieces, hread, hlength]
  | @gapped before after count hbefore hafter hcount =>
      obtain ⟨front, hfront, hearly⟩ := readGroups?_of_groups hbefore
      obtain ⟨back, hback, hlate⟩ := readGroups?_of_fills hafter
      have hpieces : ∀ digits ∈ before, digits ≠ [] ∧ ':' ∉ digits :=
        fun digits hdigits => piece_of_isGroup (hbefore digits hdigits)
      rw [readSix?, splitAtGap?_append (splitAtGap?_eq_none (glue_ne_gap hpieces))]
      simp [groupsOf?_glue hpieces, groupsOf?_glue (piece_of_fills hafter), hfront, hback,
        hearly, hlate, hcount]

theorem isSome_readSix?_iff {text : List Char} :
    (readSix? text).isSome = true ↔ IsEightGroups text := by
  refine ⟨fun hread => ?_, isSome_readSix?_of_isEightGroups⟩
  obtain ⟨groups, hgroups⟩ := Option.isSome_iff_exists.mp hread
  exact isEightGroups_of_readSix? hgroups

theorem readFour?_of_isEightGroups {text : List Char} (hgroups : IsEightGroups text) :
    readFour? text = none := by
  rw [← Option.not_isSome_iff_eq_none, isSome_readFour?_iff]
  exact fun hoctets => absurd (hoctets.isBare ':' hgroups.colon_mem) (by decide)

theorem read?_eq_four_iff {text : String} {octets : List Nat} :
    read? text = some (.four octets) ↔ readFour? text.toList = some octets := by
  unfold read?
  cases readFour? text.toList with
  | none => simp
  | some found => simp

theorem read?_eq_six_iff {text : String} {groups : List Nat} :
    read? text = some (.six groups) ↔ readSix? text.toList = some groups := by
  unfold read?
  cases hfour : readFour? text.toList with
  | none => simp
  | some found =>
      have hnone : readSix? text.toList ≠ some groups := fun hsix =>
        Option.some_ne_none found
          (hfour.symm.trans (readFour?_of_isEightGroups (isEightGroups_of_readSix? hsix)))
      simp [hnone]

/-- Exactly the texts of the two forms are addresses. -/
theorem isSome_read?_iff {text : String} :
    (read? text).isSome = true ↔ IsFourOctets text.toList ∨ IsEightGroups text.toList := by
  rw [← isSome_readFour?_iff, ← isSome_readSix?_iff, read?]
  cases readFour? text.toList with
  | none => simp
  | some octets => simp

end IpAddress

/-! ## Addresses with a number -/

namespace SocketAddress

theorem colon_not_mem_decimalDigits (number : Nat) : ':' ∉ Text.decimalDigits number :=
  fun hcolon => absurd (Text.isAsciiDigit_of_mem_decimalDigits hcolon) (by decide)

/-- The last colon is the one before the number. -/
theorem splitNumber?_append (host : List Char) (number : Nat) :
    splitNumber? (host ++ ':' :: Text.decimalDigits number) =
      some (host, Text.decimalDigits number) := by
  have hdigits : ':' ∉ (Text.decimalDigits number).reverse := by
    simpa using colon_not_mem_decimalDigits number
  rw [splitNumber?, List.reverse_append, List.reverse_cons, List.append_assoc,
    List.singleton_append, Text.splitAtFirst?_append hdigits]
  simp

theorem readSocketNumber?_decimalDigits {number : Nat} (hnumber : number ≤ Text.limit16) :
    readSocketNumber? (Text.decimalDigits number) = some number := by
  have hsome : Text.decimalDigits number ≠ [] := Nat.toDigits_ne_nil
  have hdigits : (Text.decimalDigits number).all Text.isAsciiDigit = true :=
    List.all_eq_true.mpr fun char hchar => Text.isAsciiDigit_of_mem_decimalDigits hchar
  simp [readSocketNumber?, hsome, hdigits, Text.digitsValue_decimalDigits, hnumber]

theorem bracket_not_mem_of_isFourOctets {text : List Char} (hoctets : IsFourOctets text) :
    '[' ∉ text := by
  obtain ⟨octets, -, -, rfl⟩ := hoctets
  intro hbracket
  rcases Text.mem_glue hbracket with hdot | ⟨piece, hpiece, hmem⟩
  · exact absurd hdot (by decide)
  · obtain ⟨octet, -, rfl⟩ := List.mem_map.mp hpiece
    rw [Text.decimal, String.toList_ofList] at hmem
    exact absurd (Text.isAsciiDigit_of_mem_decimalDigits hmem) (by decide)

theorem bracket_not_mem_of_isGroup {digits : List Char} (hgroup : IsGroup digits) :
    '[' ∉ digits :=
  fun hbracket => absurd (hgroup.2.2 '[' hbracket) (by decide)

theorem bracket_not_mem_of_fills {pieces : List (List Char)} {count : Nat}
    (hfills : Fills pieces count) : ∀ piece ∈ pieces, '[' ∉ piece := by
  induction hfills with
  | nil => simp
  | octets hoctets =>
      exact List.forall_mem_singleton.mpr (bracket_not_mem_of_isFourOctets hoctets)
  | group hgroup _ ih =>
      exact List.forall_mem_cons.mpr ⟨bracket_not_mem_of_isGroup hgroup, ih⟩

theorem bracket_not_mem_glue {pieces : List (List Char)}
    (hpieces : ∀ piece ∈ pieces, '[' ∉ piece) : '[' ∉ glue [':'] pieces := by
  intro hbracket
  rcases Text.mem_glue hbracket with hcolon | ⟨piece, hpiece, hmem⟩
  · exact absurd hcolon (by decide)
  · exact hpieces piece hpiece hmem

theorem bracket_not_mem_of_isEightGroups {text : List Char} (hgroups : IsEightGroups text) :
    '[' ∉ text := by
  cases hgroups with
  | whole hfills => exact bracket_not_mem_glue (bracket_not_mem_of_fills hfills)
  | gapped hbefore hafter =>
      have hfront := bracket_not_mem_glue fun digits hdigits =>
        bracket_not_mem_of_isGroup (hbefore digits hdigits)
      have hback := bracket_not_mem_glue (bracket_not_mem_of_fills hafter)
      simp [hfront, hback]

/-- Without a bracket in front only four octets are read. -/
theorem read?_of_not_bracket {host : String} (hbracket : '[' ∉ host.toList) {number : Nat}
    (hnumber : number ≤ Text.limit16) :
    read? (host ++ ":" ++ Text.decimal number) =
      (IpAddress.readFour? host.toList).map fun octets => ⟨.four octets, number⟩ := by
  have htext : (host ++ ":" ++ Text.decimal number).toList =
      host.toList ++ ':' :: Text.decimalDigits number := by
    simp [Text.decimal]
  rw [read?, htext, splitNumber?_append, Option.bind_eq_bind, Option.bind_some]
  dsimp only
  rw [readSocketNumber?_decimalDigits hnumber, Option.bind_eq_bind, Option.bind_some]
  split
  next inner hhost => exact absurd (by simp [hhost]) hbracket
  next => rw [Option.map_eq_bind]; rfl

theorem read?_of_brackets {host : String} {number : Nat} (hnumber : number ≤ Text.limit16) :
    read? ("[" ++ host ++ "]:" ++ Text.decimal number) =
      (IpAddress.readSix? host.toList).map fun groups => ⟨.six groups, number⟩ := by
  have htext : ("[" ++ host ++ "]:" ++ Text.decimal number).toList =
      ('[' :: (host.toList ++ [']'])) ++ ':' :: Text.decimalDigits number := by
    simp [Text.decimal]
  rw [read?, htext, splitNumber?_append, Option.bind_eq_bind, Option.bind_some]
  dsimp only
  rw [readSocketNumber?_decimalDigits hnumber, Option.bind_eq_bind, Option.bind_some]
  simp [Option.map_eq_bind]

end SocketAddress

end EdgeGateway.Net
