import EdgeGateway.Proofs.Net.Host
import EdgeGateway.Proofs.Net.Site
import EdgeGateway.Proofs.Regex.Engine
import EdgeGateway.Proofs.Route.PathLanguage
import EdgeGateway.Proofs.Unicode.Folding
import EdgeGateway.Route.Predicate

/-!
# Hosts and their patterns

A pattern without wildcards matches the text that it is written as, in any case of
the letters.  What is matched is the host header up to its first colon, so a number
behind the host makes no difference, and a host is matched by its own name.

A host in brackets has colons of its own.  Nothing but the opening bracket is left of it
then, and no pattern that is such a host matches it.
-/

namespace EdgeGateway.Route.Predicate

open Net (IsBracketed IsHost isPrinted)
open Regex (Captures Expr Passes Place)
open Text (lowerAscii lowerAsciiChar)

/-! ## What patterns without wildcards match -/

theorem hostExprs_of_not_mem {text : List Char} (hplain : '*' ∉ text) :
    hostExprs text = text.map Expr.charIgnoringCase := by
  induction text with
  | nil => rfl
  | cons char rest ih =>
      obtain ⟨hchar, hrest⟩ : '*' ≠ char ∧ '*' ∉ rest := by simpa using hplain
      unfold hostExprs
      split
      next => simp_all
      next => simp_all
      next => simp_all
      next => simp_all

/-- Characters in one of the cases that a pattern takes for the same. -/
def Folds (char other : Char) : Prop :=
  (Unicode.closeUnderFolding [(char.toNat, char.toNat)]).containsChar other = true

theorem spans_charsIgnoringCase {chars : List Char} {first final : Place}
    {captured : Captures} :
    (Expr.sequence (chars.map Expr.charIgnoringCase ++ [.endsText])).Spans first final
        captured ↔
      captured = [] ∧ ∃ piece, List.Forall₂ Folds chars piece ∧ Passes first piece final ∧
        final.rest = [] := by
  induction chars generalizing first captured with
  | nil =>
      simp only [List.map_nil, List.nil_append, Expr.sequence, Regex.spans_endsText,
        List.forall₂_nil_left_iff, exists_eq_left, Regex.passes_nil]
      grind
  | cons char chars ih =>
      rw [List.map_cons, List.cons_append, Regex.spans_sequence_cons (by simp)]
      constructor
      · rintro ⟨middle, before, after, hone, hmore, rfl⟩
        obtain ⟨rfl, other, hfolds, hpassed⟩ := Regex.spans_oneOf.mp hone
        obtain ⟨rfl, piece, hpiece, hpasses, hrest⟩ := ih.mp hmore
        exact ⟨rfl, other :: piece, .cons hfolds hpiece,
          Regex.passes_append.mpr ⟨middle, hpassed, hpasses⟩, hrest⟩
      · rintro ⟨rfl, _, hpiece, hpasses, hrest⟩
        obtain ⟨other, piece, hfolds, hmore, rfl⟩ := List.forall₂_cons_left_iff.mp hpiece
        rw [← List.singleton_append] at hpasses
        obtain ⟨middle, hpassed, hpasses⟩ := Regex.passes_append.mp hpasses
        exact ⟨middle, [], [], Regex.spans_oneOf.mpr ⟨rfl, other, hfolds, hpassed⟩,
          ih.mpr ⟨rfl, piece, hmore, hpasses, hrest⟩, rfl⟩

/-- The expression of a host pattern. -/
def hostExpr (text : String) : Expr :=
  Expr.sequence (.startsText :: hostExprs text.toList ++ [.endsText])

theorem compileHost_eq_ok {text : String} {pattern : Regex.Pattern} :
    compileHost text = .ok pattern ↔
      (hostExpr text).weight ≤ Expr.weightLimit ∧ ⟨text, hostExpr text, []⟩ = pattern := by
  rw [← Regex.ofExpr_eq_ok, compileHost, ← hostExpr]
  cases Regex.Pattern.ofExpr text (hostExpr text) [] <;> simp

theorem isMatch_compileHost {text actual : String} {pattern : Regex.Pattern}
    (hplain : '*' ∉ text.toList) (hcompile : compileHost text = .ok pattern) :
    pattern.isMatch actual = true ↔ List.Forall₂ Folds text.toList actual.toList := by
  obtain ⟨-, rfl⟩ := compileHost_eq_ok.mp hcompile
  rw [Regex.Pattern.isMatch_iff]
  dsimp only
  have hsome : text.toList.map Expr.charIgnoringCase ++ [Expr.endsText] ≠ [] := by simp
  rw [hostExpr, hostExprs_of_not_mem hplain, List.cons_append]
  simp only [Regex.spans_sequence_cons hsome, Regex.spans_startsText, spans_charsIgnoringCase]
  constructor
  · rintro ⟨first, final, _, hfirst, middle, _, _, ⟨rfl, rfl, hprevious⟩,
      ⟨rfl, piece, hpiece, hpasses, hrest⟩, rfl⟩
    obtain ⟨before, hactual, -, hlast⟩ := hfirst
    obtain rfl : before = [] := List.getLast?_eq_none_iff.mp (hlast.symm.trans hprevious)
    rw [hactual, hpasses.rest_eq, hrest, List.nil_append, List.append_nil]
    exact hpiece
  · intro hfolds
    have htext : (Place.start actual.toList).rest = actual.toList ++ [] :=
      (List.append_nil _).symm
    obtain ⟨final, hpasses, hrest⟩ := Regex.exists_passes htext
    exact ⟨.start actual.toList, final, [], .start _, .start actual.toList, [], [],
      ⟨rfl, rfl, rfl⟩, ⟨rfl, actual.toList, hfolds, hpasses, hrest⟩, rfl⟩

def IsAscii (text : List Char) : Prop := ∀ char ∈ text, char.toNat < 0x80

theorem forall₂_folds_iff {chars others : List Char} (hchars : IsAscii chars)
    (hothers : IsAscii others) :
    List.Forall₂ Folds chars others ↔ chars.map lowerAsciiChar = others.map lowerAsciiChar := by
  induction chars generalizing others with
  | nil => simp
  | cons char chars ih =>
      obtain ⟨hchar, hmore⟩ := List.forall_mem_cons.mp hchars
      cases others with
      | nil => simp
      | cons other others =>
          obtain ⟨hother, hrest⟩ := List.forall_mem_cons.mp hothers
          rw [List.forall₂_cons, ih hmore hrest, Folds,
            Unicode.containsChar_closeUnderFolding hchar hother, List.map_cons, List.map_cons,
            List.cons.injEq]

/-- Without wildcards a pattern matches its own text in any case. -/
theorem isMatch_iff_lowerAscii {text actual : String} {pattern : Regex.Pattern}
    (hplain : '*' ∉ text.toList) (htext : IsAscii text.toList)
    (hactual : IsAscii actual.toList) (hcompile : compileHost text = .ok pattern) :
    pattern.isMatch actual = true ↔ lowerAscii text = lowerAscii actual := by
  rw [isMatch_compileHost hplain hcompile, forall₂_folds_iff htext hactual, lowerAscii,
    lowerAscii, String.ofList_inj]

/-! ## Size -/

theorem weight_charIgnoringCase_le {char : Char} (hascii : char.toNat < 0x80) :
    (Expr.charIgnoringCase char).weight ≤ 1624 := by
  have hset := PathToken.setWeight_le (Unicode.closeUnderFolding [(char.toNat, char.toNat)])
  have hsmall := Unicode.length_closeUnderFolding_le hascii
  rw [Expr.charIgnoringCase, Expr.weight]
  omega

theorem weight_hostExprs_le {text : List Char} (hascii : IsAscii text) :
    (Expr.sequence (hostExprs text ++ [.endsText])).weight ≤ 1624 * text.length + 32 := by
  have hstep : ∀ (head : Expr) (rest : List Char) (length : Nat), head.weight ≤ 1624 →
      (Expr.sequence (hostExprs rest ++ [.endsText])).weight ≤ 1624 * rest.length + 32 →
      rest.length < length →
        (Expr.sequence (head :: hostExprs rest ++ [.endsText])).weight ≤
          1624 * length + 32 := by
    intro head rest length hhead hrest hlength
    have hsequence := PathToken.weight_sequence_cons_le head (hostExprs rest ++ [.endsText])
    rw [List.cons_append]
    omega
  have hnewline := PathToken.weight_star .anyButNewline
  have hdot := PathToken.weight_star (.anyBut '.')
  have hset : ∀ code, _ := PathToken.weight_oneOf_complement_le
  have hnewlineSet : Expr.anyButNewline.weight ≤ 304 := hset _
  have hdotSet : (Expr.anyBut '.').weight ≤ 304 := hset _
  induction text using hostExprs.induct with
  | case1 => exact Nat.le_refl _
  | case2 rest ih =>
      have hrest : IsAscii rest :=
        (List.forall_mem_cons.mp (List.forall_mem_cons.mp hascii).2).2
      rw [hostExprs]
      exact hstep _ rest _ (by omega) (ih hrest) (by simp only [List.length_cons]; omega)
  | case3 rest hsingle ih =>
      have hrest : IsAscii rest := (List.forall_mem_cons.mp hascii).2
      rw [hostExprs]
      · exact hstep _ rest _ (by omega) (ih hrest) (by simp)
      · exact hsingle
  | case4 char rest htwo hone ih =>
      obtain ⟨hchar, hrest⟩ := List.forall_mem_cons.mp hascii
      rw [hostExprs]
      · exact hstep _ rest _ (weight_charIgnoringCase_le hchar) (ih hrest) (by simp)
      · exact htwo
      · exact hone

theorem exists_compileHost {text : String} (hascii : IsAscii text.toList)
    (hshort : text.length ≤ 6000) : ∃ pattern, compileHost text = .ok pattern := by
  have hlimit : Expr.weightLimit = 10485760 := by decide
  have hmore := weight_hostExprs_le hascii
  have hsequence := PathToken.weight_sequence_cons_le .startsText
    (hostExprs text.toList ++ [.endsText])
  have hstart : Expr.startsText.weight = 32 := rfl
  rw [String.length_toList] at hmore
  refine ⟨_, compileHost_eq_ok.mpr ⟨?_, rfl⟩⟩
  rw [hostExpr, List.cons_append]
  omega

/-! ## Requests -/

/-- The first host field of a request says this. -/
def NamesHost (request : Http.Request) (host : String) : Prop :=
  request.headers.first? "host" = some host

instance (request : Http.Request) (host : String) : Decidable (NamesHost request host) :=
  inferInstanceAs (Decidable (_ = _))

/-- What is left of a host without its number. -/
def withoutNumber (host : String) : String :=
  String.ofList (host.toList.takeWhile (· ≠ ':'))

theorem host?_of_namesHost {request : Http.Request} {host : String}
    (hhost : NamesHost request host) (hprinted : ∀ char ∈ host.toList, isPrinted char = true) :
    request.host? = some (withoutNumber host) := by
  have hvisible : host.toList.all Http.isVisible = true := by
    rw [List.all_eq_true]
    intro char hchar
    have hcode := Net.isPrinted_iff.mp (hprinted char hchar)
    simp [Http.isVisible, hcode, Nat.le_of_lt hcode.1]
  have hread : request.header? "host" = some host := by
    rw [Http.Request.header?, Http.Headers.text?, show _ = some host from hhost,
      Option.bind_some, Http.readableValue?, if_pos hvisible]
  rw [Http.Request.host?, hread]
  rfl

theorem withoutNumber_append (host number : String) :
    withoutNumber (host ++ ":" ++ number) = withoutNumber host := by
  have htext : (host ++ ":" ++ number).toList = host.toList ++ ':' :: number.toList := by
    simp
  rw [withoutNumber, htext, Net.Url.takeWhile_append_of_head (by decide), withoutNumber]

/-- Nothing is lost if there is no colon, and then only. -/
theorem lowerAscii_withoutNumber_iff {host : String} :
    lowerAscii host = lowerAscii (withoutNumber host) ↔ ':' ∉ host.toList := by
  rw [lowerAscii, lowerAscii, withoutNumber, String.toList_ofList, String.ofList_inj]
  constructor
  · intro hsame
    have hlength := congrArg List.length hsame
    rw [List.length_map, List.length_map] at hlength
    have hkept := (List.takeWhile_prefix (· ≠ ':')).eq_of_length hlength.symm
    intro hcolon
    rw [← hkept] at hcolon
    simpa using List.mem_takeWhile_imp hcolon
  · intro hcolon
    have hkept : host.toList.takeWhile (· ≠ ':') = host.toList := by
      rw [List.takeWhile_eq_self_iff]
      intro char hchar
      simpa using fun h : char = ':' => hcolon (h ▸ hchar)
    rw [hkept]

theorem holds_host {request : Http.Request} {actual : String}
    (hhost : request.host? = some actual) (patterns : List Regex.Pattern) :
    holds request (host patterns) = patterns.any fun pattern => pattern.isMatch actual := by
  rw [holds, hhost]

/-- The keys under which an entry lists its patterns. -/
def patternKeys : List String := ["patterns", "pattern"]

/-- An entry of a host predicate with one pattern. -/
structure IsHostEntry (entry : Entry) (pattern : String) : Prop where
  name : lowerAscii entry.name = "host"
  patterns : entry.list patternKeys = [pattern]

theorem compile_eq_ok_of_isHostEntry {entry : Entry} {pattern : String}
    (hentry : IsHostEntry entry pattern) {predicate : Predicate} :
    compile entry = .ok predicate ↔
      ∃ compiled, compileHost pattern = .ok compiled ∧ host [compiled] = predicate := by
  have hlist := hentry.patterns
  rw [patternKeys] at hlist
  have hcompile : compile entry =
      (requiredList entry ["patterns", "pattern"] "patterns").bind fun patterns =>
        (patterns.mapM compileHost).bind fun compiled => .ok (host compiled) := by
    rw [compile, hentry.name]
    rfl
  rw [hcompile, requiredList, hlist]
  cases hpattern : compileHost pattern with
  | error error => simp [Except.bind, hpattern, bind]
  | ok compiled => simp [Except.bind, hpattern, bind, pure, Except.pure]

/-! ## The case of letters -/

theorem exists_mem_of_lowerAscii {left right : String} (hsame : lowerAscii left = lowerAscii right)
    {char : Char} (hchar : char ∈ left.toList) :
    ∃ other ∈ right.toList, lowerAsciiChar other = lowerAsciiChar char := by
  rw [lowerAscii, lowerAscii, String.ofList_inj] at hsame
  have hlowered := List.mem_map_of_mem (f := lowerAsciiChar) hchar
  rw [hsame] at hlowered
  exact List.mem_map.mp hlowered

theorem isAscii_of_isPrinted {text : List Char}
    (hprinted : ∀ char ∈ text, isPrinted char = true) : IsAscii text := by
  intro char hchar
  have hcode := Net.isPrinted_iff.mp (hprinted char hchar)
  omega

theorem isAscii_of_lowerAscii {left right : String} (hsame : lowerAscii left = lowerAscii right)
    (hright : IsAscii right.toList) : IsAscii left.toList := by
  intro char hchar
  obtain ⟨other, hother, hlowered⟩ := exists_mem_of_lowerAscii hsame hchar
  have hascii := Unicode.toNat_lowerAsciiChar_lt (hright other hother)
  rw [hlowered, Text.toNat_lowerAsciiChar] at hascii
  split at hascii <;> omega

theorem not_mem_of_lowerAscii {left right : String} (hsame : lowerAscii left = lowerAscii right)
    {mark : Char} (hmark : mark.toNat < 65) (hright : mark ∉ right.toList) :
    mark ∉ left.toList := by
  intro hmem
  obtain ⟨other, hother, hlowered⟩ := exists_mem_of_lowerAscii hsame hmem
  rw [(Text.lowerAsciiChar_eq_iff hmark).mpr rfl, Text.lowerAsciiChar_eq_iff hmark] at hlowered
  exact hright (hlowered ▸ hother)

/-- A host predicate does not see the number behind a host.  If its one pattern is a
host without stars, then it holds for that host in any case of the letters, with and
without a number, unless the host stands in brackets. -/
theorem host_matched_without_number {name number : String} (hname : IsHost name)
    (hnumber : ∀ char ∈ number.toList, Text.isAsciiDigit char = true)
    {bare numbered : Http.Request} (hbare : NamesHost bare name)
    (hnumbered : NamesHost numbered (name ++ ":" ++ number)) :
    (∀ patterns, holds numbered (.host patterns) = holds bare (.host patterns)) ∧
    ∀ entry pattern, IsHostEntry entry pattern → '*' ∉ name.toList →
      lowerAscii pattern = lowerAscii name →
        (pattern.length ≤ 6000 → ∃ predicate, compile entry = .ok predicate) ∧
        ∀ predicate, compile entry = .ok predicate →
          (holds bare predicate = true ↔ ¬ IsBracketed name.toList) ∧
          (holds numbered predicate = true ↔ ¬ IsBracketed name.toList) := by
  have hfound : bare.host? = some (withoutNumber name) :=
    host?_of_namesHost hbare hname.isPrinted
  have hprinted : ∀ char ∈ (name ++ ":" ++ number).toList, isPrinted char = true := by
    simp only [String.toList_append, List.forall_mem_append]
    exact ⟨⟨hname.isPrinted, by simp [isPrinted]⟩, fun char hchar =>
      (Bool.and_eq_true_iff.mp (Net.isBare_of_isAsciiDigit (hnumber char hchar))).1⟩
  have hnumberedFound : numbered.host? = some (withoutNumber name) := by
    rw [host?_of_namesHost hnumbered hprinted, withoutNumber_append]
  have hsame : ∀ patterns, holds numbered (.host patterns) = holds bare (.host patterns) := by
    intro patterns
    rw [holds_host hfound, holds_host hnumberedFound]
  refine ⟨hsame, fun entry pattern hentry hplain hcase => ?_⟩
  have hascii : IsAscii name.toList := isAscii_of_isPrinted hname.isPrinted
  have hpattern : IsAscii pattern.toList := isAscii_of_lowerAscii hcase hascii
  constructor
  · intro hshort
    obtain ⟨compiled, hcompiled⟩ := exists_compileHost hpattern hshort
    exact ⟨_, (compile_eq_ok_of_isHostEntry hentry).mpr ⟨compiled, hcompiled, rfl⟩⟩
  · intro predicate hpredicate
    obtain ⟨compiled, hcompiled, rfl⟩ := (compile_eq_ok_of_isHostEntry hentry).mp hpredicate
    have hkept : IsAscii (withoutNumber name).toList := by
      rw [withoutNumber, String.toList_ofList]
      exact fun char hchar => hascii char ((List.takeWhile_prefix _).subset hchar)
    have hholds : holds bare (.host [compiled]) = true ↔ ¬ IsBracketed name.toList := by
      rw [holds_host hfound, List.any_cons, List.any_nil, Bool.or_false,
        isMatch_iff_lowerAscii (not_mem_of_lowerAscii hcase (by decide) hplain) hpattern hkept
          hcompiled,
        hcase, lowerAscii_withoutNumber_iff, hname.colon_mem_iff]
    exact ⟨hholds, by rw [hsame, hholds]⟩

/-- A request to a host. -/
def requestTo (name : String) : Http.Request :=
  .ofTarget "GET" "/" (.ofList [("host", name)])

/-- A host predicate with one pattern. -/
def hostEntry (pattern : String) : Entry := ⟨"Host", [("patterns", pattern)]⟩

theorem api_host_matched :
    ∃ predicate, compile (hostEntry "API.example.com") = .ok predicate ∧
      holds (requestTo "api.Example.com") predicate = true ∧
      holds (requestTo "api.Example.com:8080") predicate = true := by
  have hchars : "api.Example.com".toList.all Net.isNameChar = true := by decide +kernel
  have hname : IsHost "api.Example.com" :=
    Or.inl (Net.isRegisteredName_of_all (List.all_eq_true.mp hchars))
  have hbracket : ¬ IsBracketed "api.Example.com".toList := by
    rw [← hname.colon_mem_iff]
    decide +kernel
  have hentry : IsHostEntry (hostEntry "API.example.com") "API.example.com" :=
    ⟨by decide +kernel, by decide +kernel⟩
  have hnumber : "8080".toList.all Text.isAsciiDigit = true := by decide +kernel
  have hbare : NamesHost (requestTo "api.Example.com") "api.Example.com" := by decide +kernel
  have hnumbered : NamesHost (requestTo "api.Example.com:8080")
      ("api.Example.com" ++ ":" ++ "8080") := by decide +kernel
  obtain ⟨-, hpatterns⟩ := host_matched_without_number hname (List.all_eq_true.mp hnumber)
    hbare hnumbered
  obtain ⟨hcompiles, hholds⟩ := hpatterns _ _ hentry (by decide +kernel) (by decide +kernel)
  obtain ⟨predicate, hpredicate⟩ := hcompiles (by decide +kernel)
  obtain ⟨hholdsBare, hholdsNumbered⟩ := hholds predicate hpredicate
  exact ⟨predicate, hpredicate, hholdsBare.mpr hbracket, hholdsNumbered.mpr hbracket⟩

theorem isBracketed_loopback : IsBracketed "[::1]".toList := by
  have hone : Net.IsGroup ['1'] :=
    ⟨by decide, by decide, List.forall_mem_singleton.mpr (by decide)⟩
  have hnone : ∀ digits ∈ ([] : List (List Char)), Net.IsGroup digits := by simp
  exact ⟨_, .gapped hnone (.group hone .nil) (by decide), rfl⟩

/-- Nothing but a bracket is left of an address in brackets. -/
theorem loopback_host_not_matched :
    IsHost "[::1]" ∧ '*' ∉ "[::1]".toList ∧ IsHostEntry (hostEntry "[::1]") "[::1]" ∧
      ∃ predicate, compile (hostEntry "[::1]") = .ok predicate ∧
        NamesHost (requestTo "[::1]") "[::1]" ∧ holds (requestTo "[::1]") predicate = false ∧
        NamesHost (requestTo "[::1]:8080") "[::1]:8080" ∧
        holds (requestTo "[::1]:8080") predicate = false := by
  have hname : IsHost "[::1]" := Or.inr (Or.inr isBracketed_loopback)
  have hentry : IsHostEntry (hostEntry "[::1]") "[::1]" := ⟨by decide +kernel, by decide +kernel⟩
  have hplain : '*' ∉ "[::1]".toList := by decide +kernel
  have hascii : IsAscii "[::1]".toList := isAscii_of_isPrinted hname.isPrinted
  obtain ⟨compiled, hcompiled⟩ := exists_compileHost hascii (by decide +kernel)
  have hopened : IsAscii "[".toList := isAscii_of_isPrinted (by simp [isPrinted])
  have hmissed : compiled.isMatch "[" = false := by
    rw [Bool.eq_false_iff, ne_eq, isMatch_iff_lowerAscii hplain hascii hopened hcompiled]
    decide +kernel
  have hheld : ∀ request, request.host? = some "[" →
      holds request (.host [compiled]) = false := by
    intro request hhost
    rw [holds_host hhost, List.any_cons, hmissed]
    rfl
  exact ⟨hname, hplain, hentry, .host [compiled],
    (compile_eq_ok_of_isHostEntry hentry).mpr ⟨compiled, hcompiled, rfl⟩,
    by decide +kernel, hheld _ (by decide +kernel), by decide +kernel,
    hheld _ (by decide +kernel)⟩

end EdgeGateway.Route.Predicate
