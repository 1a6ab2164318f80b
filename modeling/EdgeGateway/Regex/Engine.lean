import EdgeGateway.Regex.Replacement

/-!
# Engines

Patterns that are written in a configuration are compiled, matched and replaced by
a library for regular expressions.  What is asked of it are three functions; the
definitions of this folder are the engine that runs.
-/

namespace EdgeGateway.Regex

/-- A library for regular expressions. -/
class Engine where
  compile : String → Except SyntaxError Pattern
  isMatch : Pattern → String → Bool
  /-- Puts a replacement in the place of the first match in a text. -/
  replaceFirst : Pattern → String → String → String

instance : Engine := ⟨Pattern.compile, Pattern.isMatch, Pattern.replaceFirst⟩

end EdgeGateway.Regex
