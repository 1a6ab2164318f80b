import EdgeGateway.Cors.Preflight
import EdgeGateway.Proofs.Attempt
import EdgeGateway.Proofs.Text.Letters
import EdgeGateway.Proofs.Time.Expiring

/-!
# The question of a preflight

The key holds the requested headers as one text.  A requested header is neither
empty nor does it hold a comma, so the text determines the list.  With the origin
and the method in their normal forms the key then has all that the policy looks
at, apart from the spelling of the origin in a rejection.

A preflight is answered with what is remembered under its key, and the policy is
asked only where nothing is.
-/

namespace EdgeGateway.Cors

theorem mem_insertName {name new : String} {names : List String} :
    name ∈ insertName new names ↔ name = new ∨ name ∈ names := by
  induction names with
  | nil => simp [insertName]
  | cons known names ih =>
      rw [insertName]
      split
      next hsame => simp [hsame]
      next =>
        split
        next => simp
        next => simp [ih, or_left_comm]

theorem mem_foldr_insertName {name : String} {names : List String} :
    name ∈ names.foldr insertName [] ↔ name ∈ names := by
  induction names with
  | nil => simp
  | cons known names ih => simp [mem_insertName, ih]

theorem requested_proper (value : Option String) :
    ∀ name ∈ normalizeRequestedHeaders value, name ≠ "" ∧ ',' ∉ name.toList := by
  intro name hname
  rw [normalizeRequestedHeaders, mem_foldr_insertName, List.mem_filter] at hname
  obtain ⟨hpiece, hsome⟩ := hname
  obtain ⟨piece, hmem, rfl⟩ := List.mem_map.mp hpiece
  refine ⟨of_decide_eq_true hsome, ?_⟩
  have hcomma : ',' ∉ Text.trimChars piece := fun hcomma =>
    Text.not_mem_of_mem_splitAtEvery _ piece hmem
      ((Text.trimChars_sublist piece).subset hcomma)
  intro hlower
  rw [Text.lowerAscii, String.toList_ofList, String.toList_ofList] at hlower
  obtain ⟨char, hchar, hlower⟩ := List.mem_map.mp hlower
  exact hcomma ((Text.lowerAsciiChar_eq_iff (by decide)).mp hlower ▸ hchar)

namespace Policy

/-- The policy sees an origin and a method only in their normal forms, unless it
rejects. -/
theorem evaluate_eq_ok_of_normal {policy : Policy} {origin other method verb : String}
    {requested : List String} {allowance : Allowance}
    (horigin : normalizeOrigin origin = normalizeOrigin other)
    (hmethod : Text.upperAscii (Text.trim method) =
      Text.upperAscii (Text.trim verb))
    (hallowed : policy.evaluate origin method requested = .ok allowance) :
    policy.evaluate other verb requested = .ok allowance := by
  unfold evaluate at hallowed ⊢
  rw [← horigin, ← hmethod]
  cases hrule :
      policy.origins.find? (OriginRule.covers (normalizeOrigin origin)) with
  | none =>
      simp [hrule, bind, Except.bind, throw, throwThe, MonadExceptOf.throw]
        at hallowed
  | some rule => simpa [hrule] using hallowed

end Policy

namespace PreflightQuestion

/-- What the policy says to a question. -/
def decision (policy : Policy) (question : PreflightQuestion) :
    Except Rejection Allowance :=
  policy.evaluate question.origin question.method question.requested

/-- Two requests with one key are allowed the same. -/
theorem decision_eq_ok_of_key {policy : Policy} {request other : Http.Request}
    {allowance : Allowance}
    (hkey : (ofRequest request).key = (ofRequest other).key)
    (hallowed : (ofRequest request).decision policy = .ok allowance) :
    (ofRequest other).decision policy = .ok allowance := by
  obtain ⟨horigin, hmethod, -, hheaders⟩ := PreflightKey.mk.inj hkey
  have hrequested : (ofRequest request).requested = (ofRequest other).requested :=
    Text.join_injective (requested_proper _) (requested_proper _) hheaders
  unfold decision at hallowed ⊢
  rw [← hrequested]
  exact Policy.evaluate_eq_ok_of_normal horigin hmethod hallowed

end PreflightQuestion

section Answer

open PreflightQuestion (ofRequest)

variable {now : Instant} {request : Http.Request} {cache : PreflightCache}

theorem handlePreflight_of_other (handler : PreflightHandler) (now : Instant)
    (cache : PreflightCache) (hother : isPreflight request = false) :
    handlePreflight handler now request cache = .ok ⟨cache, none, []⟩ := by
  simp [handlePreflight, hother]

theorem handlePreflight_of_live (handler : PreflightHandler) {allowance : Allowance}
    (hpreflight : isPreflight request = true)
    (hlive : cache.live? now (ofRequest request).key = some allowance) :
    handlePreflight handler now request cache =
      .ok ⟨(cache.lookup now (ofRequest request).key).2,
        some (.ok ⟨allowance.headers, true⟩), [.preflightCache true]⟩ := by
  have hlookup : cache.lookup now (ofRequest request).key = (some allowance, _) :=
    Prod.ext hlive rfl
  simp only [handlePreflight, hpreflight, Bool.not_true, Bool.false_eq_true, if_false]
  rw [hlookup]

/-- An allowance is kept, a rejection is not. -/
theorem handlePreflight_of_forgotten (handler : PreflightHandler)
    (hpreflight : isPreflight request = true)
    (hlive : cache.live? now (ofRequest request).key = none) :
    handlePreflight handler now request cache =
      match (ofRequest request).decision handler.policy with
      | .ok allowance =>
          ((cache.lookup now (ofRequest request).key).2.store now handler.ttl
              (ofRequest request).key allowance).map
            fun kept => ⟨kept, some (.ok ⟨allowance.headers, false⟩),
              [.preflightCache false]⟩
      | .error rejection =>
          .ok ⟨(cache.lookup now (ofRequest request).key).2,
            some (.error (.policyRejection rejection.reason)),
            [.preflightCache false, .preflightRejections]⟩ := by
  have hlookup : cache.lookup now (ofRequest request).key = (none, _) :=
    Prod.ext hlive rfl
  simp only [handlePreflight, hpreflight, Bool.not_true, Bool.false_eq_true, if_false]
  rw [hlookup, PreflightQuestion.decision]
  cases handler.policy.evaluate (ofRequest request).origin (ofRequest request).method
    (ofRequest request).requested <;> rfl

end Answer

end EdgeGateway.Cors
