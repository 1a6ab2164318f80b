import EdgeGateway.Proofs.Route.BaseUrl
import EdgeGateway.Proofs.Route.PathLanguage
import EdgeGateway.Proofs.Text.Slots
import EdgeGateway.Route.Match
import Mathlib.Data.List.Perm.Subperm

/-!
# Filling templates

A template is filled one variable after the other, and a value is searched for the
variables that come after it.  This is the same as filling all slots at once if no
variable meets a slot that is not in the template, whichever of the others come
first.  Then the order of the variables does not matter.  A request whose path has
no opening brace brings no such slot, and a template whose opening braces all open
slots lets none come together.
-/

namespace EdgeGateway.Route

/-- Distinct names with values. -/
structure IsCapture (captured : List (String × String)) : Prop where
  named : ∀ binding ∈ captured, Text.IsName binding.1.toList
  distinct : (captured.map Prod.fst).Nodup

/-- The value of a variable. -/
def valueOf? (captured : List (String × String)) (name : List Char) :
    Option (List Char) :=
  (captured.lookup (String.ofList name)).map String.toList

/-- The template with the value of each variable in place of each of its slots. -/
def fillAtOnce (template : String) (captured : List (String × String)) : String :=
  String.ofList (Text.fill (valueOf? captured) (Text.segments template.toList))

/-- Each slot of a variable is replaced by its value, and nothing else is. -/
structure Substitutes (captured : List (String × String)) (filled : String → String) :
    Prop where
  slot : ∀ name value, (name, value) ∈ captured → ∀ before after,
    filled (before ++ ("\x7b" ++ name ++ "\x7d") ++ after) =
      filled before ++ value ++ filled after
  rest : ∀ template : String, (∀ name ∈ captured.map Prod.fst,
    ¬ ("\x7b" ++ name ++ "\x7d").toList <:+: template.toList) → filled template = template

/-- A variable that comes after some of the others finds its slots of the template,
and no others that it would change. -/
def Settled (template : String) (captured : List (String × String)) : Prop :=
  ∀ part name value, ((name, value) :: part).Subperm captured →
    value = "\x7b" ++ name ++ "\x7d" ∨
      Text.occurrences name.toList (fillAtOnce template part).toList =
        Text.occurrences name.toList template.toList

/-- Every opening brace of a template opens a slot. -/
def IsClosed (template : String) : Prop :=
  .plain '{' ∉ Text.segments template.toList

instance : DecidablePred IsClosed := fun _ => inferInstanceAs (Decidable (_ ∉ _))

/-! ## Values -/

theorem IsCapture.of_subperm {part captured : List (String × String)}
    (hcapture : IsCapture captured) (hpart : part.Subperm captured) : IsCapture part where
  named binding hmem := hcapture.named binding (hpart.subset hmem)
  distinct := by
    obtain ⟨same, hsame, hsublist⟩ := hpart
    apply (hsame.map Prod.fst).nodup_iff.mp
    exact hcapture.distinct.sublist (hsublist.map Prod.fst)

theorem lookup_eq_some_iff_mem {captured : List (String × String)}
    (hdistinct : (captured.map Prod.fst).Nodup) {name value : String} :
    captured.lookup name = some value ↔ (name, value) ∈ captured := by
  rw [List.lookup_eq_some_iff]
  constructor
  · rintro ⟨before, after, rfl, -⟩
    simp
  · intro hmem
    obtain ⟨before, after, rfl⟩ := List.append_of_mem hmem
    refine ⟨before, after, rfl, fun binding hbinding => ?_⟩
    rw [List.map_append, List.map_cons, List.nodup_append] at hdistinct
    have hother := hdistinct.2.2 _ (List.mem_map_of_mem hbinding) name List.mem_cons_self
    simpa using hother.symm

/-- The order of variables does not matter for their values. -/
theorem valueOf?_of_perm {order captured : List (String × String)}
    (hdistinct : (captured.map Prod.fst).Nodup) (hperm : order.Perm captured) :
    valueOf? order = valueOf? captured := by
  have horder := (hperm.map Prod.fst).nodup_iff.mpr hdistinct
  funext name
  apply congrArg (Option.map String.toList)
  ext value
  rw [lookup_eq_some_iff_mem horder, lookup_eq_some_iff_mem hdistinct, hperm.mem_iff]

theorem valueOf?_eq_none {captured : List (String × String)} {name : String}
    (hnew : name ∉ captured.map Prod.fst) : valueOf? captured name.toList = none := by
  rw [valueOf?, Option.map_eq_none_iff, List.lookup_eq_none_iff, String.ofList_toList]
  intro binding hbinding
  have hother : name ≠ binding.1 := by
    rintro rfl
    exact hnew (List.mem_map_of_mem hbinding)
  simpa using hother

theorem valueOf?_concat {captured : List (String × String)} {name : String}
    (hnew : name ∉ captured.map Prod.fst) (value : String) :
    valueOf? (captured ++ [(name, value)]) =
      Function.update (valueOf? captured) name.toList (some value.toList) := by
  funext other
  rw [valueOf?, List.lookup_append, List.lookup_cons, List.lookup_nil]
  by_cases hsame : other = name.toList
  · have hnone := valueOf?_eq_none hnew
    rw [valueOf?, Option.map_eq_none_iff] at hnone
    rw [hsame, hnone, Function.update_self]
    simp
  · have hother : (String.ofList other == name) = false := by
      rw [beq_eq_false_iff_ne]
      rintro rfl
      simp at hsame
    rw [Function.update_of_ne hsame, hother, valueOf?, Option.or_none]

/-! ## One variable after the other -/

theorem toList_slot (name : String) :
    ("\x7b" ++ name ++ "\x7d").toList = (Text.Segment.slot name.toList).spelling := by
  simp [Text.Segment.spelling]

theorem fillAtOnce_append_slot {captured : List (String × String)} {name value : String}
    (hname : Text.IsName name.toList) (hvalue : captured.lookup name = some value)
    (before after : String) :
    fillAtOnce (before ++ ("\x7b" ++ name ++ "\x7d") ++ after) captured =
      fillAtOnce before captured ++ value ++ fillAtOnce after captured := by
  have hfound : valueOf? captured name.toList = some value.toList := by
    rw [valueOf?, String.ofList_toList, hvalue, Option.map_some]
  rw [fillAtOnce, String.toList_append, String.toList_append, toList_slot,
    List.append_assoc, Text.segments_append_slot hname, Text.fill_append, Text.fill_slot,
    hfound, Option.getD_some, String.ofList_append, String.ofList_append,
    String.ofList_toList, ← String.append_assoc, fillAtOnce, fillAtOnce]

theorem fillAtOnce_of_not_infix {template : String} {captured : List (String × String)}
    (hnone : ∀ name ∈ captured.map Prod.fst,
      ¬ ("\x7b" ++ name ++ "\x7d").toList <:+: template.toList) :
    fillAtOnce template captured = template := by
  have hvalues : ∀ name, .slot name ∈ Text.segments template.toList →
      valueOf? captured name = none := by
    intro name hslot
    rw [← String.toList_ofList (l := name)]
    apply valueOf?_eq_none
    intro hmem
    apply hnone _ hmem
    rw [toList_slot, String.toList_ofList]
    exact Text.infix_of_mem_segments hslot
  rw [fillAtOnce, Text.fill_eq_spell hvalues, Text.spell_segments, String.ofList_toList]

theorem IsCapture.substitutes_fillAtOnce {captured : List (String × String)}
    (hcapture : IsCapture captured) : Substitutes captured (fillAtOnce · captured) where
  slot _ _ hmem :=
    fillAtOnce_append_slot (hcapture.named _ hmem)
      ((lookup_eq_some_iff_mem hcapture.distinct).mpr hmem)
  rest _ := fillAtOnce_of_not_infix

theorem fillAtOnce_of_perm {order captured : List (String × String)}
    (hdistinct : (captured.map Prod.fst).Nodup) (hperm : order.Perm captured)
    (template : String) : fillAtOnce template order = fillAtOnce template captured := by
  rw [fillAtOnce, valueOf?_of_perm hdistinct hperm, fillAtOnce]

/-- One more variable is filled in rightly exactly if it stays what it is, or meets
only the slots of the template. -/
theorem fillTemplate_concat_eq_iff {template : String} {captured : List (String × String)}
    (hearlier : Filter.fillTemplate template captured = fillAtOnce template captured)
    {name : String} (hname : Text.IsName name.toList)
    (hnew : name ∉ captured.map Prod.fst) (value : String) :
    Filter.fillTemplate template (captured ++ [(name, value)]) =
        fillAtOnce template (captured ++ [(name, value)]) ↔
      value = "\x7b" ++ name ++ "\x7d" ∨
        Text.occurrences name.toList (fillAtOnce template captured).toList =
          Text.occurrences name.toList template.toList := by
  have hreplaced : Filter.fillTemplate template (captured ++ [(name, value)]) =
      Text.replace ("\x7b" ++ name ++ "\x7d") value (fillAtOnce template captured) := by
    rw [← hearlier, Filter.fillTemplate, List.foldl_append]
    rfl
  rw [hreplaced, Text.replace, toList_slot, Text.replacePiece_slot hname]
  simp only [fillAtOnce, String.toList_ofList]
  rw [valueOf?_concat hnew, String.ofList_inj,
    Text.fill_fill_eq_iff value.toList hname (valueOf?_eq_none hnew), ← String.toList_inj,
    toList_slot]
  rfl

/-- The variables can be filled in one after the other, in any order and with any of
them left out, exactly if the template is settled. -/
theorem settled_iff {template : String} {captured : List (String × String)}
    (hcapture : IsCapture captured) :
    Settled template captured ↔ ∀ part, part.Subperm captured →
      Filter.fillTemplate template part = fillAtOnce template part := by
  have hlast : ∀ part name (value : String), ((name, value) :: part).Subperm captured →
      Text.IsName name.toList ∧ name ∉ part.map Prod.fst := by
    intro part name value hpart
    have hpartial := hcapture.of_subperm hpart
    exact ⟨hpartial.named _ List.mem_cons_self, (List.nodup_cons.mp hpartial.distinct).1⟩
  constructor
  · intro hsettled part hpart
    induction part using List.reverseRecOn with
    | nil =>
        have hnone : valueOf? [] = fun _ => none := rfl
        rw [fillAtOnce, hnone, Text.fill_eq_spell fun _ _ => rfl, Text.spell_segments,
          String.ofList_toList]
        rfl
    | append_singleton part binding ih =>
        obtain ⟨name, value⟩ := binding
        have hcons : ((name, value) :: part).Subperm captured :=
          (List.perm_append_singleton _ part).symm.subperm.trans hpart
        obtain ⟨hname, hnew⟩ := hlast part name value hcons
        have hearlier := ih (List.Subperm.cons_self.trans hcons)
        exact (fillTemplate_concat_eq_iff hearlier hname hnew value).mpr
          (hsettled part name value hcons)
  · intro hfilled part name value hcons
    obtain ⟨hname, hnew⟩ := hlast part name value hcons
    have hearlier := hfilled part (List.Subperm.cons_self.trans hcons)
    apply (fillTemplate_concat_eq_iff hearlier hname hnew value).mp
    exact hfilled _ ((List.perm_append_singleton _ part).subperm.trans hcons)

/-- A closed template is settled with values that have no opening brace. -/
theorem settled_of_isClosed {template : String} {captured : List (String × String)}
    (hcapture : IsCapture captured) (hclosed : IsClosed template)
    (hvalues : ∀ binding ∈ captured, '{' ∉ binding.2.toList) :
    Settled template captured := by
  intro part name value hcons
  right
  have hpartial := hcapture.of_subperm hcons
  have hnew := (List.nodup_cons.mp hpartial.distinct).1
  rw [fillAtOnce, String.toList_ofList]
  apply Text.occurrences_fill (valueOf?_eq_none hnew) _
    (fun other => Text.isName_of_mem_segments) hclosed
  intro other found hfound
  obtain ⟨text, htext, rfl⟩ := Option.map_eq_some_iff.mp hfound
  obtain ⟨before, after, hpart, -⟩ := List.lookup_eq_some_iff.mp htext
  have hmem : (String.ofList other, text) ∈ (name, value) :: part := by simp [hpart]
  exact hvalues _ (hcons.subset hmem)

/-! ## What a route captures -/

namespace PathToken

theorem isWord_of_canonical {tokens : List PathToken} (hcanonical : Canonical tokens)
    {name : String} (hname : name ∈ tokens.filterMap variableName?) :
    IsWord name.toList := by
  induction tokens with
  | nil => simp at hname
  | cons token tokens ih =>
      obtain ⟨hends, hrest⟩ := hcanonical
      obtain ⟨other, hother, hvariable⟩ := List.mem_filterMap.mp hname
      obtain rfl | hmore := List.mem_cons.mp hother
      · cases other with
        | capture found =>
            obtain rfl := Option.some.inj hvariable
            exact hends
        | _ => simp [variableName?] at hvariable
      · exact ih hrest (List.mem_filterMap.mpr ⟨other, hmore, hvariable⟩)

theorem mem_of_mem_bindings {tokens : List PathToken} {pieces : List (List Char)}
    {binding : String × List Char} (hmem : binding ∈ bindings tokens pieces) :
    binding.2 ∈ pieces := by
  induction tokens generalizing pieces with
  | nil => simp [bindings] at hmem
  | cons token tokens ih =>
      cases pieces with
      | nil => simp [bindings] at hmem
      | cons piece pieces =>
          rw [bindings, List.mem_append] at hmem
          obtain hhead | hmore := hmem
          · obtain ⟨name, -, rfl⟩ := List.mem_map.mp hhead
            exact List.mem_cons_self
          · exact List.mem_cons_of_mem piece (ih hmore)

end PathToken

open PathToken in
/-- What a compiled pattern captures are distinct names with pieces of the path. -/
theorem PathPattern.isCapture_of_compile {text : String} {pattern : PathPattern}
    (hcompile : compile text = .ok pattern) {path : String}
    {captured : List (String × String)} (hcaptured : pattern.captures? path = some captured) :
    IsCapture captured ∧ ∀ binding ∈ captured, binding.2.toList ⊆ path.toList := by
  have hread : read text = .ok pattern := by
    unfold compile at hcompile
    split at hcompile
    next found hfound => rw [hfound, Except.ok.inj hcompile]
    next => cases hcompile
  have hreading := reading_read text
  rw [hread] at hreading
  cases hreading with
  | @read tokens hwell hcanonical hspell =>
      obtain ⟨pieces, hsplits, hbindings⟩ := exists_splits_of_captures? hcaptured
      have hnames : captured.map Prod.fst = tokens.filterMap variableName? := by
        rw [hbindings, ← map_fst_bindings hsplits.1.length_eq, List.map_map]
        rfl
      have hwords : ∀ binding ∈ captured, IsWord binding.1.toList := by
        intro binding hbinding
        apply isWord_of_canonical hcanonical
        rw [← hnames]
        exact List.mem_map_of_mem hbinding
      have hdistinct := hwell.distinct
      rw [← hspell, openedNames_spell hcanonical, ← hnames] at hdistinct
      constructor
      · constructor
        · intro binding hbinding
          have hword := hwords binding hbinding
          exact ⟨hword.not_mem (by decide), hword.not_mem (by decide)⟩
        · exact hdistinct.of_map
      · rw [hbindings]
        intro binding hbinding
        obtain ⟨found, hfound, rfl⟩ := List.mem_map.mp hbinding
        have hpiece := mem_of_mem_bindings hfound
        rw [← hsplits.2, String.toList_ofList]
        exact (List.infix_of_mem_flatten hpiece).subset

theorem Predicate.compiled_of_mem {entry : Entry} {patterns : List PathPattern}
    (hcompile : compile entry = .ok (path patterns)) {pattern : PathPattern}
    (hmem : pattern ∈ patterns) : ∃ text, PathPattern.compile text = .ok pattern := by
  unfold compile at hcompile
  split at hcompile
  case h_1 =>
    obtain ⟨texts, -, hlist⟩ := bind_eq_ok_iff.mp hcompile
    obtain ⟨found, hfound, hresult⟩ := bind_eq_ok_iff.mp hlist
    cases pure_eq_ok_iff.mp hresult
    obtain ⟨text, -, htext⟩ := mem_of_mapM_eq_ok hfound hmem
    exact ⟨text, htext⟩
  case h_2 =>
    obtain ⟨methods, -, hresult⟩ := bind_eq_ok_iff.mp hcompile
    cases pure_eq_ok_iff.mp hresult
  case h_6 => cases hcompile
  all_goals
    obtain ⟨_, -, hrest⟩ := bind_eq_ok_iff.mp hcompile
    obtain ⟨_, -, hresult⟩ := bind_eq_ok_iff.mp hrest
    cases pure_eq_ok_iff.mp hresult

theorem Resolved.compiled_of_mem {row : Row} {route : Resolved}
    (hroute : ofRow row = .ok (some route)) {predicate : Predicate}
    (hmem : predicate ∈ route.predicates) :
    ∃ entry, Predicate.compile entry = .ok predicate := by
  obtain ⟨definition, -, hresolves⟩ := bind_eq_ok_iff.mp hroute
  obtain ⟨hpredicates, -⟩ := compiled_of_ofDefinition hresolves
  obtain ⟨entry, -, hentry⟩ := mem_of_mapM_eq_ok hpredicates hmem
  exact ⟨entry, hentry⟩

theorem Resolved.exists_of_any {row : Row} {test : Resolved → Bool}
    (htest : (ofRow row).toOption.any (·.any test) = true) :
    ∃ route, ofRow row = .ok (some route) ∧ test route = true := by
  obtain ⟨found, hfound, hany⟩ := exists_ok_of_any htest
  obtain ⟨route, rfl, hroute⟩ := (Option.any_eq_true _ _).mp hany
  exact ⟨route, hfound, hroute⟩

/-- The variables of a request along a route are distinct names with pieces of its
path. -/
theorem Resolved.isCapture_pathVariables {row : Row} {route : Resolved}
    (hroute : ofRow row = .ok (some route)) (path : String) :
    IsCapture (Predicate.pathVariables route.predicates path) ∧
      ∀ binding ∈ Predicate.pathVariables route.predicates path,
        binding.2.toList ⊆ path.toList := by
  unfold Predicate.pathVariables
  cases hcaptured : route.predicates.findSome? _ with
  | none => exact ⟨⟨by simp, by simp⟩, by simp⟩
  | some captured =>
      obtain ⟨predicate, hpredicate, hfound⟩ := List.exists_of_findSome?_eq_some hcaptured
      obtain ⟨entry, hentry⟩ := compiled_of_mem hroute hpredicate
      cases predicate with
      | path patterns =>
          obtain ⟨pattern, hpattern, hpath⟩ := List.exists_of_findSome?_eq_some hfound
          obtain ⟨text, htext⟩ := Predicate.compiled_of_mem hentry hpattern
          exact PathPattern.isCapture_of_compile htext hpath
      | _ => simp at hfound

/-! ## The order of variables -/

namespace Filter

/-- Only the templates of a chain see the order of the variables. -/
theorem applyAll_congr {order captured : List (String × String)} {filters : List Filter}
    (hsame : ∀ template, .setPath template ∈ filters →
      fillTemplate template order = fillTemplate template captured) (path : String) :
    applyAll filters order path = applyAll filters captured path := by
  induction filters using List.reverseRecOn with
  | nil => rfl
  | append_singleton filters last ih =>
      rw [applyAll_concat, applyAll_concat,
        ih fun template hmem => hsame template (List.mem_append_left _ hmem)]
      cases last with
      | setPath template =>
          have hlast := hsame template (by simp)
          rw [apply, apply, hlast]
      | _ => rfl

end Filter

/-- To fill a template at once replaces the slots of the variables, and nothing else.
To fill it in one variable after the other comes to the same, in every order and for
every part of the variables, exactly if the template is settled; a closed template is
with values that have no opening brace.  What a route captures are distinct names with
pieces of the path, and if the templates of the route are settled with them, then
every order fills the templates at once and leads to the one path that is forwarded. -/
theorem templates_filled_at_once (captured : List (String × String)) :
    (IsCapture captured → Substitutes captured (fillAtOnce · captured) ∧
      ∀ template,
        (Settled template captured ↔ ∀ part, part.Subperm captured →
          Filter.fillTemplate template part = fillAtOnce template part) ∧
        (IsClosed template → (∀ binding ∈ captured, '{' ∉ binding.2.toList) →
          Settled template captured)) ∧
    ∀ row route, Resolved.ofRow row = .ok (some route) →
      ∀ (request : Http.Request) (selection : Selection),
        Predicate.pathVariables route.predicates request.path = captured →
        IsCapture captured ∧
        (∀ binding ∈ captured, binding.2.toList ⊆ request.path.toList) ∧
        ((∀ template, .setPath template ∈ route.filters → Settled template captured) →
          ∀ order, order.Perm captured →
            (∀ template, .setPath template ∈ route.filters → ∀ edits,
              (Filter.apply order edits (.setPath template)).path =
                fillAtOnce template captured) ∧
            (Filter.applyAll route.filters order request.path).path =
              (Match.ofSelection request route selection).path) := by
  constructor
  · intro hcapture
    apply And.intro hcapture.substitutes_fillAtOnce
    intro template
    exact ⟨settled_iff hcapture, settled_of_isClosed hcapture⟩
  · rintro row route hroute request selection rfl
    obtain ⟨hcapture, hvalues⟩ := Resolved.isCapture_pathVariables hroute request.path
    apply And.intro hcapture
    apply And.intro hvalues
    intro hsettled order horder
    have hfills : ∀ template, .setPath template ∈ route.filters → ∀ other,
        other.Perm (Predicate.pathVariables route.predicates request.path) →
          Filter.fillTemplate template other =
            fillAtOnce template (Predicate.pathVariables route.predicates request.path) := by
      intro template hmem other hother
      rw [← fillAtOnce_of_perm hcapture.distinct hother]
      exact (settled_iff hcapture).mp (hsettled template hmem) other hother.subperm
    constructor
    · intro template hmem edits
      exact hfills template hmem order horder
    · apply congrArg Edits.path
      apply Filter.applyAll_congr
      intro template hmem
      rw [hfills template hmem order horder, hfills template hmem _ (.refl _)]

def tabRow : Row :=
  { id := "tab"
    uri := some "http://users:80"
    pathPattern := some "/users/\x7bid\x7d/\x7btab\x7d"
    filters := .array [.string "SetPath=/v2/\x7btab\x7d/\x7bid\x7d"] }

/-- The template of a filter that sets the path. -/
def Filter.template? : Filter → Option String
  | setPath template => some template
  | _ => none

theorem tab_filled_in_either_order :
    let template := "/v2/\x7btab\x7d/\x7bid\x7d"
    let captured := [("id", "7"), ("tab", "a\x7db")]
    (IsCapture captured ∧ IsClosed template ∧ Settled template captured ∧
      Filter.fillTemplate template captured.reverse = "/v2/a\x7db/7") ∧
    ∃ route, Resolved.ofRow tabRow = .ok (some route) ∧
      Predicate.pathVariables route.predicates "/users/7/a\x7db" = captured ∧
      (Filter.applyAll route.filters captured.reverse "/users/7/a\x7db").path = "/v2/a\x7db/7" := by
  intro template captured
  have hcapture : IsCapture captured := ⟨by decide, by decide⟩
  have hclosed : IsClosed template := by decide
  obtain ⟨hall, hroutes⟩ := templates_filled_at_once captured
  obtain ⟨hfills, hplain⟩ := (hall hcapture).2 template
  have hsettled := hplain hclosed (by decide)
  have hatOnce : fillAtOnce template captured = "/v2/a\x7db/7" := by decide +kernel
  have hreverse : captured.reverse.Perm captured := captured.reverse_perm
  refine ⟨⟨hcapture, hclosed, hsettled, ?_⟩, ?_⟩
  · rw [hfills.mp hsettled _ hreverse.subperm, ← hatOnce]
    exact fillAtOnce_of_perm hcapture.distinct hreverse template
  · let request : Http.Request := .ofTarget "GET" "/users/7/a\x7db" {}
    let selection : Selection := ⟨"http://users:80", none⟩
    obtain ⟨route, hroute, htest⟩ : ∃ route, Resolved.ofRow tabRow = .ok (some route) ∧
        (decide (Predicate.pathVariables route.predicates request.path = captured) &&
          decide (route.filters.filterMap Filter.template? = [template]) &&
          decide ((Match.ofSelection request route selection).path = "/v2/a\x7db/7")) = true :=
      Resolved.exists_of_any (by decide +kernel)
    simp only [Bool.and_eq_true, decide_eq_true_eq] at htest
    obtain ⟨⟨hvariables, htemplates⟩, hforwarded⟩ := htest
    have hall : ∀ other, .setPath other ∈ route.filters → Settled other captured := by
      intro other hmem
      have hother : other ∈ route.filters.filterMap Filter.template? :=
        List.mem_filterMap.mpr ⟨_, hmem, rfl⟩
      rw [htemplates, List.mem_singleton] at hother
      exact hother ▸ hsettled
    obtain ⟨-, -, horders⟩ := hroutes tabRow route hroute request selection hvariables
    have hreversed := (horders hall captured.reverse hreverse).2
    exact ⟨route, hroute, hvariables, hreversed.trans hforwarded⟩

/-- The value of each variable has the slots of both. -/
def nested : List (String × String) :=
  [("a", "\x7ba\x7d\x7bb\x7d\x7ba\x7d"), ("b", "\x7bb\x7d\x7ba\x7d\x7bb\x7d")]

def nestedRow : Row :=
  { id := "nested"
    uri := some "http://users:80"
    pathPattern := some "/\x7ba\x7d/\x7bb\x7d"
    filters := .array [.string "SetPath=/\x7ba\x7d\x7bb\x7d"] }

def nestedPath : String :=
  "/\x7ba\x7d\x7bb\x7d\x7ba\x7d/\x7bb\x7d\x7ba\x7d\x7bb\x7d"

/-- Values are filled in again: in either order eight slots come of a template that has
six when it is filled at once, and with other values the order matters. -/
theorem values_filled_again :
    (∃ route, Resolved.ofRow nestedRow = .ok (some route) ∧
      Predicate.pathVariables route.predicates nestedPath = nested ∧
      ∀ order ∈ [nested, nested.reverse],
        (Filter.applyAll route.filters order nestedPath).path =
          "/\x7ba\x7d\x7bb\x7d\x7ba\x7d\x7bb\x7d\x7ba\x7d\x7bb\x7d\x7ba\x7d\x7bb\x7d") ∧
    fillAtOnce "/\x7ba\x7d\x7bb\x7d" nested =
      "/\x7ba\x7d\x7bb\x7d\x7ba\x7d\x7bb\x7d\x7ba\x7d\x7bb\x7d" ∧
    Filter.fillTemplate "/\x7ba\x7d" [("a", "\x7bb\x7d"), ("b", "x")] = "/x" ∧
    Filter.fillTemplate "/\x7ba\x7d" [("b", "x"), ("a", "\x7bb\x7d")] = "/\x7bb\x7d" := by
  refine ⟨?_, by decide +kernel, by decide +kernel, by decide +kernel⟩
  let refilled := "/\x7ba\x7d\x7bb\x7d\x7ba\x7d\x7bb\x7d\x7ba\x7d\x7bb\x7d\x7ba\x7d\x7bb\x7d"
  obtain ⟨route, hroute, htest⟩ : ∃ route, Resolved.ofRow nestedRow = .ok (some route) ∧
      (decide (Predicate.pathVariables route.predicates nestedPath = nested) &&
        decide (∀ order ∈ [nested, nested.reverse],
          (Filter.applyAll route.filters order nestedPath).path = refilled)) = true :=
    Resolved.exists_of_any (by decide +kernel)
  obtain ⟨hvariables, horders⟩ := Bool.and_eq_true_iff.mp htest
  exact ⟨route, hroute, of_decide_eq_true hvariables, of_decide_eq_true horders⟩

end EdgeGateway.Route
