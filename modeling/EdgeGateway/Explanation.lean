/-!
# Explanations

What an error says has two parts: words of the gateway, and possibly the reason
that a reader of some foreign format gave.  They are kept apart, because only
the first part is the gateway's to promise.
-/

namespace EdgeGateway

structure Explanation where
  text : String
  reason : Option String := none
  deriving Repr, DecidableEq

namespace Explanation

def full (explanation : Explanation) : String :=
  explanation.text ++ explanation.reason.getD ""

/-- The same explanation after some introductory words. -/
def after (explanation : Explanation) (words : String) : Explanation :=
  { explanation with text := words ++ explanation.text }

/-- The same explanation with a mark in place of a foreign reason. -/
def hideReason (mark : String) (explanation : Explanation) : Explanation :=
  { explanation with reason := explanation.reason.map fun _ => mark }

/-- An explanation that ends in a foreign reason. -/
def withReason (words reason : String) : Explanation := ⟨words, some reason⟩

instance : Coe String Explanation := ⟨fun text => ⟨text, none⟩⟩

end Explanation

end EdgeGateway
