import EdgeGateway.Regex.Matcher

/-!
# Replacing a match

A replacement is text in which `$1`, `$name` and braced forms of both stand for
what a group captured, and `$$` for a dollar sign.  Without braces a name is the
longest run of letters, digits and underscores.  A group that captured nothing
contributes nothing, and a dollar sign that begins no reference stands for
itself.
-/

namespace EdgeGateway.Regex

inductive GroupReference where
  | number (index : Nat)
  | name (name : String)
  deriving Repr, DecidableEq

namespace GroupReference

/-- A numeral is a number, anything else a name. -/
def ofText (text : List Char) : GroupReference :=
  match Text.readNatural Text.limit64 (String.ofList text) with
  | .ok index => number index
  | .error _ => name (String.ofList text)

def lookup (pattern : Pattern) (found : Match) : GroupReference → List Char
  | number index => (found.group? index).getD []
  | name text =>
      match pattern.groupNames.find? fun (known, _) => known = text with
      | some (_, index) => (found.group? index).getD []
      | none => []

end GroupReference

def isReferenceChar (char : Char) : Bool :=
  Text.isAsciiAlphanumeric char || char = '_'

/-- The reference after a dollar sign, and the number of characters it takes. -/
def readReference? (text : List Char) : Option (GroupReference × Nat) :=
  match text with
  | '{' :: body =>
      (Text.splitAtFirst? '}' body).map fun (name, _) =>
        (.ofText name, name.length + 2)
  | _ =>
      let name := text.takeWhile isReferenceChar
      if name = [] then none else some (.ofText name, name.length)

/-- Fills in the references of a replacement; `skip` counts characters of a
reference that are still to be passed over. -/
def expandFrom (pattern : Pattern) (found : Match) :
    Nat → List Char → List Char
  | _, [] => []
  | skip + 1, _ :: rest => expandFrom pattern found skip rest
  | 0, char :: rest =>
      if char = '$' then
        if rest.head? = some '$' then
          '$' :: expandFrom pattern found 1 rest
        else
          match readReference? rest with
          | some (reference, length) =>
              reference.lookup pattern found ++
                expandFrom pattern found length rest
          | none => '$' :: expandFrom pattern found 0 rest
      else char :: expandFrom pattern found 0 rest

namespace Pattern

/-- Replaces the first match. -/
def replaceFirst (pattern : Pattern) (replacement text : String) : String :=
  match pattern.search? text with
  | none => text
  | some found =>
      String.ofList
        (found.before ++ expandFrom pattern found 0 replacement.toList ++
          found.after)

end Pattern

end EdgeGateway.Regex
