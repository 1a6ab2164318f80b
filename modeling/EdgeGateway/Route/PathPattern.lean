import EdgeGateway.Regex.Matcher
import EdgeGateway.Route.Error

/-!
# Path patterns

A pattern is a list of tokens.  Literal text stands for itself, `*` for any text
within a segment, `**` for any text on one line, and `{name}` for one or more
characters of a segment, which it captures.  At the end of a pattern, `/**` also
stands for nothing, so that it covers the path it hangs under.  The tokens become
one regular expression over the whole path.
-/

namespace EdgeGateway.Route

inductive PathToken where
  | literal (text : List Char)
  | withinSegment
  | anything
  | capture (name : String)
  | subtree
  deriving Repr, DecidableEq

namespace PathToken

def isVariableChar (char : Char) : Bool :=
  Text.isAsciiAlphanumeric char || char = '_'

/-- Literal text up to the next wildcard or variable. -/
def literalRun (text : List Char) : List Char :=
  text.takeWhile fun char => char ≠ '*' && char ≠ '{'

/-- Reads a pattern; `fuel` bounds the number of tokens. -/
def readTokens : Nat → List Char → Except PatternFault (List PathToken)
  | 0, _ => .ok []
  | fuel + 1, text =>
      match text with
      | [] => .ok []
      | ['/', '*', '*'] => .ok [subtree]
      | '*' :: '*' :: rest => (readTokens fuel rest).map (anything :: ·)
      | '*' :: rest => (readTokens fuel rest).map (withinSegment :: ·)
      | '{' :: rest =>
          match Text.splitAtFirst? '}' rest with
          | none => .error .unclosedVariable
          | some (name, rest) =>
              if name = [] ∨ !(name.all isVariableChar) then
                .error (.invalidVariable (String.ofList name))
              else
                (readTokens fuel rest).map (capture (String.ofList name) :: ·)
      | _ =>
          let run := literalRun text
          let rest := text.drop run.length
          if rest = ['*', '*'] ∧ run.getLast? = some '/' then
            .ok [literal run.dropLast, subtree]
          else (readTokens fuel rest).map (literal run :: ·)

/-- The expression of a token; a variable takes the next group number. -/
def expr (index : Nat) : PathToken → Regex.Expr
  | literal text => .literal text
  | withinSegment => .star (.anyBut '/')
  | anything => .star .anyButNewline
  | capture _ => .group (some index) (.plus (.anyBut '/'))
  | subtree => .optional (.seq (.char '/') (.star .anyButNewline))

def variableName? : PathToken → Option String
  | capture name => some name
  | _ => none

/-- The expressions of tokens whose first variable has the given number. -/
def exprs (index : Nat) : List PathToken → List Regex.Expr
  | [] => []
  | token :: tokens =>
      token.expr index ::
        exprs (if (variableName? token).isSome then index + 1 else index) tokens

/-- Numbers the variables in order, from one. -/
def groupNames (tokens : List PathToken) : List (String × Nat) :=
  ((tokens.filterMap variableName?).zipIdx).map fun (name, index) =>
    (name, index + 1)

/-- The first fault in the names of the variables. -/
def nameFault? : List String → List String → Option Regex.SyntaxError
  | _, [] => none
  | seen, name :: names =>
      if name.toList.head?.any Text.isAsciiDigit then some .invalidGroupName
      else if seen.contains name then some (.duplicateGroupName name)
      else nameFault? (name :: seen) names

end PathToken

structure PathPattern where
  tokens : List PathToken
  pattern : Regex.Pattern
  deriving Repr

namespace PathPattern

def read (text : String) : Except PatternFault PathPattern := do
  if text.toList.head? ≠ some '/' then throw .relative
  let tokens ← PathToken.readTokens (text.toList.length + 1) text.toList
  match PathToken.nameFault? [] (tokens.filterMap PathToken.variableName?) with
  | some fault => throw (.invalidRegex fault)
  | none =>
      let expr := Regex.Expr.sequence
        (.startsText :: PathToken.exprs 1 tokens ++ [.endsText])
      match Regex.Pattern.ofExpr text expr (PathToken.groupNames tokens) with
      | .ok pattern => return ⟨tokens, pattern⟩
      | .error error => throw (.invalidRegex error)

def compile (text : String) : Except Error PathPattern :=
  match read text with
  | .ok pattern => .ok pattern
  | .error fault => .error (.invalidPattern text fault)

def text (pattern : PathPattern) : String := pattern.pattern.source

def isMatch (pattern : PathPattern) (path : String) : Bool :=
  pattern.pattern.isMatch path

/-- What the variables of a matching pattern captured. -/
def captures? (pattern : PathPattern) (path : String) :
    Option (List (String × String)) :=
  pattern.pattern.namedCaptures? path

end PathPattern

end EdgeGateway.Route
