import EdgeGateway.Proofs.Cors.Admission
import EdgeGateway.Proofs.Http.Fields

/-!
# Answers with the wildcard

The first entry that admits an origin decides how it is answered.  If that is the
wildcard and credentials are off, the answer is `*` for everybody and does not
vary with the origin.  In all other cases the origin is sent back as it was
given, in its normal form, and the answer varies with it.  So `*` goes with
credentials only if it is what the client itself gave as its origin.
-/

namespace EdgeGateway.Cors

open Http (Headers)
open Http.Headers (lastWriter? values_setAll writes)

/-! ## The fields of an answer -/

namespace Allowance

/-- The fields of an answer in order; some of them may be left out. -/
def slots (allowance : Allowance) : List (String × Option String) :=
  [("access-control-allow-origin", some allowance.allowOrigin),
    ("access-control-allow-methods", some allowance.allowMethods),
    ("access-control-allow-headers", allowance.allowHeaders),
    ("access-control-allow-credentials",
      if allowance.allowCredentials then some "true" else none),
    ("access-control-expose-headers", allowance.exposeHeaders),
    ("access-control-max-age", some (Text.decimal allowance.maxAge))]

def present? (slot : String × Option String) : Option (String × String) :=
  slot.2.map fun value => (slot.1, value)

/-- The fields that every answer has the same way, whatever it varies with. -/
def plainHeaders (allowance : Allowance) : Headers :=
  Headers.empty.setAll (allowance.slots.filterMap present?)

theorem headers_eq (allowance : Allowance) :
    allowance.headers =
      if allowance.varyOrigin then allowance.plainHeaders.append "vary" "Origin"
      else allowance.plainHeaders := by
  obtain ⟨origin, vary, methods, headers, credentials, exposed, maxAge⟩ := allowance
  cases headers <;> cases credentials <;> cases exposed <;>
    simp [Allowance.headers, setOptional, plainHeaders, slots, present?, Headers.setAll,
      List.filterMap_cons]

/-- Only the slots of a name have a say in its values. -/
theorem lastWriter?_slots (slots : List (String × Option String)) (name : String) :
    lastWriter? (slots.filterMap present?) name =
      lastWriter? ((slots.filter fun slot =>
        Text.equalIgnoringCase slot.1 name).filterMap present?) name := by
  rw [lastWriter?, lastWriter?, List.filter_filterMap, List.filter_filterMap,
    List.filterMap_filter]
  congr 2
  funext slot
  obtain ⟨known, value⟩ := slot
  cases hsame : Text.equalIgnoringCase known name <;>
    cases value <;> simp [present?, writes, hsame]

section Values

variable {slots : List (String × Option String)} {name : String}

theorem values_of_sole_slot {value : Option String}
    (hsole : (slots.filter fun slot => Text.equalIgnoringCase slot.1 name) =
      [(name, value)]) (hname : Http.isHeaderName name = true) :
    (Headers.empty.setAll (slots.filterMap present?)).values name =
      (value.filter Http.isHeaderValue).toList := by
  rw [values_setAll, lastWriter?_slots, hsole]
  cases value with
  | none => rfl
  | some value =>
      have hsame : Text.equalIgnoringCase name name = true := by
        simp [Text.equalIgnoringCase]
      have hlisted : [(name, some value)].filterMap present? = [(name, value)] := rfl
      rw [hlisted, Http.Headers.lastWriter?_singleton]
      cases hvalue : Http.isHeaderValue value <;>
        simp [writes, hname, hvalue, hsame, Headers.values, Headers.empty, Option.filter]

theorem values_of_no_slot
    (hnone : (slots.filter fun slot => Text.equalIgnoringCase slot.1 name) = []) :
    (Headers.empty.setAll (slots.filterMap present?)).values name = [] := by
  rw [values_setAll, lastWriter?_slots, hnone]
  rfl

end Values

variable (allowance : Allowance)

theorem values_headers_of_ne {name : String}
    (hother : Text.equalIgnoringCase "vary" name = false) :
    allowance.headers.values name = allowance.plainHeaders.values name := by
  rw [headers_eq]
  split
  next => rw [Http.Headers.values_append, hother, if_neg (by simp), List.append_nil]
  next => rfl

theorem values_allowOrigin :
    allowance.headers.values "access-control-allow-origin" =
      if Http.isHeaderValue allowance.allowOrigin then [allowance.allowOrigin] else [] := by
  have hsole : (allowance.slots.filter fun slot =>
      Text.equalIgnoringCase slot.1 "access-control-allow-origin") =
        [("access-control-allow-origin", some allowance.allowOrigin)] := by
    simp +decide [slots]
  rw [values_headers_of_ne allowance rfl, plainHeaders, values_of_sole_slot hsole rfl,
    Option.filter]
  split <;> rfl

theorem values_allowCredentials :
    allowance.headers.values "access-control-allow-credentials" =
      if allowance.allowCredentials then ["true"] else [] := by
  have hsole : (allowance.slots.filter fun slot =>
      Text.equalIgnoringCase slot.1 "access-control-allow-credentials") =
        [("access-control-allow-credentials",
          if allowance.allowCredentials then some "true" else none)] := by
    simp +decide [slots]
  rw [values_headers_of_ne allowance rfl, plainHeaders, values_of_sole_slot hsole rfl]
  cases allowance.allowCredentials <;> rfl

theorem values_vary :
    allowance.headers.values "vary" = if allowance.varyOrigin then ["Origin"] else [] := by
  have hplain : allowance.plainHeaders.values "vary" = [] :=
    values_of_no_slot (by simp +decide [slots])
  rw [headers_eq]
  split
  next => rw [Http.Headers.values_append, hplain]; rfl
  next => exact hplain

end Allowance

/-! ## The first entry that admits an origin -/

/-- Whether an entry is the first of its list to admit an origin. -/
def IsFirstToAdmit (config : Config.Cors) (origin entry : String) : Prop :=
  ∃ earlier later, config.allowedOrigins = earlier ++ entry :: later ∧
    Admits entry origin ∧ ∀ other ∈ earlier, ¬ Admits other origin

/-- Whether an origin comes to the wildcard before any other entry admits it. -/
def MeetsWildcard (config : Config.Cors) (origin : String) : Prop :=
  ∃ entry, IsFirstToAdmit config origin entry ∧ normalizeOrigin entry = "*"

theorem isFirstToAdmit_iff (config : Config.Cors) (origin entry : String) :
    IsFirstToAdmit config origin entry ↔
      (config.allowedOrigins.find? fun entry =>
        (OriginRule.ofText entry).covers (normalizeOrigin origin)) = some entry := by
  rw [List.find?_eq_some_iff_append, covers_ofText_iff, IsFirstToAdmit]
  constructor
  · rintro ⟨earlier, later, hsplit, hadmits, hearlier⟩
    refine ⟨hadmits, earlier, later, hsplit, fun other hother => ?_⟩
    rw [Bool.not_eq_true', ← Bool.not_eq_true, covers_ofText_iff]
    exact hearlier other hother
  · rintro ⟨hadmits, earlier, later, hsplit, hearlier⟩
    refine ⟨earlier, later, hsplit, hadmits, fun other hother => ?_⟩
    have hother := hearlier other hother
    rwa [Bool.not_eq_true', ← Bool.not_eq_true, covers_ofText_iff] at hother

theorem rule_eq_any_iff {config : Config.Cors} {origin : String} {rule : OriginRule}
    (hrule : (Policy.ofConfig config).origins.find?
      (OriginRule.covers (normalizeOrigin origin)) = some rule) :
    rule = .any ↔ MeetsWildcard config origin := by
  have horigins : (Policy.ofConfig config).origins =
      config.allowedOrigins.map OriginRule.ofText := rfl
  rw [horigins, List.find?_map, Function.comp_def, Option.map_eq_some_iff] at hrule
  obtain ⟨entry, hentry, rfl⟩ := hrule
  have hfirst : IsFirstToAdmit config origin entry :=
    (isFirstToAdmit_iff config origin entry).mpr hentry
  rw [ofText_eq_any_iff]
  constructor
  · exact fun hstar => ⟨entry, hfirst, hstar⟩
  · rintro ⟨other, hother, hstar⟩
    rw [isFirstToAdmit_iff] at hfirst hother
    rwa [Option.some.inj (hfirst.symm.trans hother)]

/-- No entry but the wildcard admits the origin `*`. -/
theorem Admits.wildcard {entry origin : String} (hadmits : Admits entry origin)
    (hstar : normalizeOrigin origin = "*") : normalizeOrigin entry = "*" := by
  rcases hadmits with hany | hsame | ⟨scheme, host, label, -, -, horigin⟩
  · exact hany
  · rw [hsame, hstar]
  · rw [hstar] at horigin
    have hlength := congrArg List.length horigin
    simp at hlength
    omega

/-! ## Answers -/

section Answers

variable {config : Config.Cors} {origin method : String} {requested : List String}
variable {allowance : Allowance}
variable (hallowed :
  (Policy.ofConfig config).evaluate origin method requested = .ok allowance)
include hallowed

theorem meetsWildcard_of_star (hstar : normalizeOrigin origin = "*") :
    MeetsWildcard config origin := by
  obtain ⟨entry, hentry, hadmits⟩ := ((allows_iff_listed _ _ _ _).mp ⟨_, hallowed⟩).origin
  have hsome : (config.allowedOrigins.find? fun entry =>
      (OriginRule.ofText entry).covers (normalizeOrigin origin)).isSome = true := by
    rw [List.find?_isSome]
    exact ⟨entry, hentry, (covers_ofText_iff entry origin).mpr hadmits⟩
  obtain ⟨first, hfirst⟩ := Option.isSome_iff_exists.mp hsome
  have hcovers := List.find?_some hfirst
  exact ⟨first, (isFirstToAdmit_iff config origin first).mpr hfirst,
    ((covers_ofText_iff first origin).mp hcovers).wildcard hstar⟩

theorem varyOrigin_eq_false_iff :
    allowance.varyOrigin = false ↔
      MeetsWildcard config origin ∧ config.allowCredentials = false := by
  obtain ⟨rule, headers, hrule, -, -, rfl⟩ := Policy.evaluate_eq_ok_iff.mp hallowed
  rw [← rule_eq_any_iff hrule]
  simp [Policy.allowance, Policy.ofConfig]

theorem allowOrigin_eq :
    allowance.allowOrigin =
      if allowance.varyOrigin then normalizeOrigin origin else "*" := by
  obtain ⟨rule, headers, -, -, -, rfl⟩ := Policy.evaluate_eq_ok_iff.mp hallowed
  simp only [Policy.allowance]
  split <;> simp_all

theorem allowCredentials_eq : allowance.allowCredentials = config.allowCredentials := by
  obtain ⟨rule, headers, -, -, -, rfl⟩ := Policy.evaluate_eq_ok_iff.mp hallowed
  rfl

theorem values_vary_eq_nil_iff :
    allowance.headers.values "vary" = [] ↔
      MeetsWildcard config origin ∧ config.allowCredentials = false := by
  rw [← varyOrigin_eq_false_iff hallowed, Allowance.values_vary]
  cases allowance.varyOrigin <;> simp

theorem allowOrigin_eq_star_iff :
    allowance.allowOrigin = "*" ↔
      MeetsWildcard config origin ∧
        (config.allowCredentials = false ∨ normalizeOrigin origin = "*") := by
  have hmeets := meetsWildcard_of_star hallowed
  have hvary := varyOrigin_eq_false_iff hallowed
  rw [allowOrigin_eq hallowed]
  cases hvaries : allowance.varyOrigin with
  | false => simp [hvary.mp hvaries]
  | true =>
      rw [if_pos rfl]
      constructor
      · exact fun hstar => ⟨hmeets hstar, Or.inr hstar⟩
      · rintro ⟨hwild, hoff | hstar⟩
        · exact absurd (hvary.mpr ⟨hwild, hoff⟩) (by simp [hvaries])
        · exact hstar

/-- An allowed preflight is answered alike for all origins exactly if its origin
meets the wildcard and credentials are off; otherwise its own origin is sent back.
So the wildcard is sent in that case, or because it is what came, and it goes with
credentials in the second case alone.  For every other origin it is sent exactly
if `Vary` is not, and never with credentials. -/
theorem wildcard_sent_or_echoed :
    (allowance.headers.values "vary" = [] ↔
      MeetsWildcard config origin ∧ config.allowCredentials = false) ∧
    allowance.allowOrigin =
      (if allowance.headers.values "vary" = [] then "*" else normalizeOrigin origin) ∧
    allowance.headers.values "access-control-allow-origin" =
      (if Http.isHeaderValue allowance.allowOrigin then [allowance.allowOrigin] else []) ∧
    allowance.headers.values "access-control-allow-credentials" =
      (if config.allowCredentials then ["true"] else []) ∧
    (allowance.headers.values "access-control-allow-origin" = ["*"] ↔
      MeetsWildcard config origin ∧
        (config.allowCredentials = false ∨ normalizeOrigin origin = "*")) ∧
    (allowance.headers.values "access-control-allow-origin" = ["*"] ∧
        allowance.headers.values "access-control-allow-credentials" = ["true"] ↔
      MeetsWildcard config origin ∧ config.allowCredentials = true ∧
        normalizeOrigin origin = "*") ∧
    (normalizeOrigin origin ≠ "*" →
      (allowance.headers.values "access-control-allow-origin" = ["*"] ↔
        allowance.headers.values "vary" = []) ∧
      ¬ (allowance.headers.values "access-control-allow-origin" = ["*"] ∧
        allowance.headers.values "access-control-allow-credentials" = ["true"])) := by
  have hvary := values_vary_eq_nil_iff hallowed
  have hsent := Allowance.values_allowOrigin allowance
  have hcredentials := Allowance.values_allowCredentials allowance
  rw [allowCredentials_eq hallowed] at hcredentials
  have hstar : allowance.headers.values "access-control-allow-origin" = ["*"] ↔
      MeetsWildcard config origin ∧
        (config.allowCredentials = false ∨ normalizeOrigin origin = "*") := by
    rw [← allowOrigin_eq_star_iff hallowed, hsent]
    constructor
    · split <;> simp
    · intro hstar
      rw [hstar, if_pos (by decide)]
  refine ⟨hvary, ?_, hsent, hcredentials, hstar, ?_, ?_⟩
  · rw [allowOrigin_eq hallowed, Allowance.values_vary]
    cases allowance.varyOrigin <;> simp
  · rw [hstar, hcredentials]
    cases config.allowCredentials <;> simp
  · intro hother
    rw [hstar, hvary, hcredentials]
    cases config.allowCredentials <;> simp [hother]

end Answers

/-- Credentials for one application by name, and for everybody else. -/
def openPolicy : Config.Cors where
  allowedOrigins := ["https://app.example.com", " * "]
  allowCredentials := true

theorem guest_origin_echoed :
    ∃ allowance,
      (Policy.ofConfig openPolicy).evaluate "https://Guest.example/" "GET" [] =
        .ok allowance ∧
      allowance.headers.values "vary" = ["Origin"] ∧
      allowance.headers.values "access-control-allow-origin" ≠ ["*"] := by
  have hallowed : (Policy.ofConfig openPolicy).evaluate "https://Guest.example/" "GET" [] =
      .ok _ := rfl
  obtain ⟨-, -, -, -, hstar, -, -⟩ := wildcard_sent_or_echoed hallowed
  refine ⟨_, hallowed, Allowance.values_vary _, fun hsent => ?_⟩
  exact absurd (hstar.mp hsent).2 (by decide)

/-- A client that calls its own origin `*` is answered with `*` and credentials. -/
theorem star_echoed_with_credentials :
    ∃ allowance,
      (Policy.ofConfig openPolicy).evaluate "*" "GET" [] = .ok allowance ∧
      allowance.allowOrigin = "*" ∧ allowance.varyOrigin = true ∧
      allowance.headers.values "access-control-allow-origin" = ["*"] ∧
      allowance.headers.values "access-control-allow-credentials" = ["true"] ∧
      allowance.headers.values "vary" = ["Origin"] := by
  refine ⟨_, rfl, rfl, rfl, ?_, ?_, ?_⟩
  · exact (Allowance.values_allowOrigin _).trans (if_pos (by decide))
  · exact Allowance.values_allowCredentials _
  · exact Allowance.values_vary _

end EdgeGateway.Cors
