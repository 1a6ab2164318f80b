import EdgeGateway.Proofs.Regex.Engine
import EdgeGateway.Route.Predicate

/-!
# Expressions for whole values

Predicates on headers and on query parameters take an expression that has to match a
whole value.  It is compiled as text between `^(?:` and `)$`, which is right for an
expression that stands on its own: one that closes a parenthesis it has not opened is
taken although it is none, and one that ends in a comment is refused although it is.
All of this holds of every engine that keeps what is promised of it.
-/

namespace EdgeGateway.Route.Predicate

/-- An entry that asks for a value of a header or of a query parameter to match. -/
inductive Demands (entry : Entry) (name text : String) : Prop
  | header (hkind : Text.lowerAscii entry.name = "header")
      (hname : entry.required .predicate "header" 0 = .ok name)
      (htext : entry.find? "regexp" 1 = some text)
  | query (hkind : Text.lowerAscii entry.name = "query")
      (hname : entry.required .predicate "param" 0 = .ok name)
      (htext : entry.find? "regexp" 1 = some text)

/-- The values that a predicate with an expression looks at. -/
def subjects (request : Http.Request) : Predicate → List String
  | header name _ => (request.header? name).toList
  | query parameter _ =>
      ((request.query.map Net.queryPairs).getD []).filterMap fun (name, value) =>
        if name = parameter then some value else none
  | _ => []

section Engine

variable [Regex.Engine]

/-- A predicate that is made of a pattern for values. -/
structure ValueTest (make : Regex.Pattern → Predicate) : Prop where
  holds : ∀ pattern request, (make pattern).holds request = true ↔
    ∃ value ∈ (make pattern).subjects request, Regex.Engine.isMatch pattern value = true

theorem valueTest_header (name : String) : ValueTest fun pattern => header name (some pattern) where
  holds pattern request := by
    cases hvalue : request.header? name <;> simp [holds, subjects, accepts, hvalue]

theorem valueTest_query (parameter : String) :
    ValueTest fun pattern => query parameter (some pattern) where
  holds pattern request := by
    cases htext : request.query with
    | none => simp [holds, subjects, htext]
    | some text =>
        have hsubjects : ∀ value, value ∈ (query parameter (some pattern)).subjects request ↔
            (parameter, value) ∈ Net.queryPairs text := by simp [subjects, htext]
        simp only [holds, htext, hsubjects, accepts, List.any_eq_true, Prod.exists,
          Bool.and_eq_true, decide_eq_true_eq]
        constructor
        · rintro ⟨_, value, hpair, rfl, hmatch⟩
          exact ⟨value, hpair, hmatch⟩
        · rintro ⟨value, hpair, hmatch⟩
          exact ⟨parameter, value, hpair, rfl, hmatch⟩

theorem Demands.compile_eq {entry : Entry} {name text : String}
    (hdemands : Demands entry name text) :
    ∃ make, ValueTest make ∧ compile entry = (compileWhole text).map make := by
  cases hdemands with
  | header hkind hname htext =>
      refine ⟨_, valueTest_header (Text.lowerAscii name), ?_⟩
      simp only [compile, hkind, hname, htext, compileOptional]
      cases compileWhole text <;> rfl
  | query hkind hname htext =>
      refine ⟨_, valueTest_query name, ?_⟩
      simp only [compile, hkind, hname, htext, compileOptional]
      cases compileWhole text <;> rfl

theorem compileWhole_eq_ok {text : String} {pattern : Regex.Pattern} :
    compileWhole text = .ok pattern ↔
      Regex.Engine.compile (Regex.wrapped text) = .ok pattern := by
  unfold compileWhole Regex.wrapped
  cases Regex.Engine.compile ("^(?:" ++ text ++ ")$") <;> simp

/-- A predicate with an expression is made of the pattern for whole values. -/
theorem Demands.compile_eq_ok {entry : Entry} {name text : String}
    (hdemands : Demands entry name text) :
    ∃ make, ValueTest make ∧ ∀ predicate, compile entry = .ok predicate ↔
      ∃ pattern, Regex.Engine.compile (Regex.wrapped text) = .ok pattern ∧
        make pattern = predicate := by
  obtain ⟨make, htest, hcompile⟩ := hdemands.compile_eq
  refine ⟨make, htest, fun predicate => ?_⟩
  rw [hcompile]
  simp only [← compileWhole_eq_ok]
  cases compileWhole text <;> simp [Except.map]

end Engine

/-- The role of a caller has to match. -/
def roleEntry (text : String) : Entry :=
  ⟨"Header", [("header", "x-role"), ("regexp", text)]⟩

def roleRequest (role : String) : Http.Request :=
  ⟨"GET", "/", none, ⟨[("x-role", role)]⟩⟩

end EdgeGateway.Route.Predicate
