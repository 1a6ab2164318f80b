import EdgeGateway.Text.Ascii
import EdgeGateway.Text.Blank
import EdgeGateway.Unicode.CategoryTable
import EdgeGateway.Unicode.CodeRanges
import EdgeGateway.Unicode.FoldTable
import EdgeGateway.Unicode.LetterTable
import EdgeGateway.Unicode.ScriptTable

/-!
# Properties by name

The sets of code points that a pattern can name: general categories and their
groups, scripts, and a few properties that are true or false.  Names are
compared loosely, without case, spaces, hyphens and underscores.  Which sets have
names is a parameter of whoever reads patterns.  Closing a set
under simple case folding adds every character that differs from a member only
in case.
-/

namespace EdgeGateway.Unicode

/-- The two spellings of a category and its members. -/
structure Category where
  short : String
  long : String
  members : CodeRanges

def categories : List Category :=
  [⟨"lu", "uppercaseletter", readRanges categoryLu⟩,
   ⟨"ll", "lowercaseletter", readRanges categoryLl⟩,
   ⟨"lt", "titlecaseletter", readRanges categoryLt⟩,
   ⟨"lm", "modifierletter", readRanges categoryLm⟩,
   ⟨"lo", "otherletter", readRanges categoryLo⟩,
   ⟨"mn", "nonspacingmark", readRanges categoryMn⟩,
   ⟨"mc", "spacingmark", readRanges categoryMc⟩,
   ⟨"me", "enclosingmark", readRanges categoryMe⟩,
   ⟨"nd", "decimalnumber", readRanges categoryNd⟩,
   ⟨"nl", "letternumber", readRanges categoryNl⟩,
   ⟨"no", "othernumber", readRanges categoryNo⟩,
   ⟨"pc", "connectorpunctuation", readRanges categoryPc⟩,
   ⟨"pd", "dashpunctuation", readRanges categoryPd⟩,
   ⟨"ps", "openpunctuation", readRanges categoryPs⟩,
   ⟨"pe", "closepunctuation", readRanges categoryPe⟩,
   ⟨"pi", "initialpunctuation", readRanges categoryPi⟩,
   ⟨"pf", "finalpunctuation", readRanges categoryPf⟩,
   ⟨"po", "otherpunctuation", readRanges categoryPo⟩,
   ⟨"sm", "mathsymbol", readRanges categorySm⟩,
   ⟨"sc", "currencysymbol", readRanges categorySc⟩,
   ⟨"sk", "modifiersymbol", readRanges categorySk⟩,
   ⟨"so", "othersymbol", readRanges categorySo⟩,
   ⟨"zs", "spaceseparator", readRanges categoryZs⟩,
   ⟨"zl", "lineseparator", readRanges categoryZl⟩,
   ⟨"zp", "paragraphseparator", readRanges categoryZp⟩,
   ⟨"cc", "control", readRanges categoryCc⟩,
   ⟨"cf", "format", readRanges categoryCf⟩,
   ⟨"co", "privateuse", readRanges categoryCo⟩]

def categoryMembers (shorts : List String) : CodeRanges :=
  CodeRanges.normalize <|
    (categories.filter fun category => shorts.contains category.short).flatMap
      Category.members

/-- A group of categories: its names and the categories in it. -/
def categoryGroups : List (List String × List String) :=
  [(["l", "letter"], ["lu", "ll", "lt", "lm", "lo"]),
   (["lc", "casedletter"], ["lu", "ll", "lt"]),
   (["m", "mark", "combiningmark"], ["mn", "mc", "me"]),
   (["n", "number"], ["nd", "nl", "no"]),
   (["p", "punctuation", "punct"], ["pc", "pd", "ps", "pe", "pi", "pf", "po"]),
   (["s", "symbol"], ["sm", "sc", "sk", "so"]),
   (["z", "separator"], ["zs", "zl", "zp"])]

def assignedMembers : CodeRanges :=
  CodeRanges.normalize (categories.flatMap Category.members)

def unassignedMembers : CodeRanges :=
  CodeRanges.complement ((0xD800, 0xDFFF) :: assignedMembers)

def alphabeticMembers : CodeRanges := readRanges alphabeticRanges

def whiteSpaceMembers : CodeRanges :=
  [(0x09, 0x0D), (0x20, 0x20), (0x85, 0x85), (0xA0, 0xA0), (0x1680, 0x1680),
   (0x2000, 0x200A), (0x2028, 0x2029), (0x202F, 0x202F), (0x205F, 0x205F),
   (0x3000, 0x3000)]

def digitMembers : CodeRanges := categoryMembers ["nd"]

/-- Letters, marks, decimal digits, connectors and the two joiners. -/
def wordMembers : CodeRanges :=
  CodeRanges.normalize <|
    alphabeticMembers ++ categoryMembers ["mn", "mc", "me", "nd", "pc"] ++
      [(0x200C, 0x200D)]

/-- Gathers the ranges that follow each `short=long` heading. -/
def readScripts : List (List Char) → List (List String × CodeRanges)
  | [] => []
  | word :: words =>
      match Text.splitAtFirst? '=' word with
      | none => readScripts words
      | some (short, long) =>
          let own := words.takeWhile fun text => !text.contains '='
          ([String.ofList short,
            String.ofList (long.filter (· ≠ '_'))],
            own.filterMap readRange?) :: readScripts words

def scripts : List (List String × CodeRanges) :=
  readScripts (tableWords scriptRanges)

/-- The spelling under which names are compared. -/
def looseName (name : String) : String :=
  let kept := (name.toList.filter fun char =>
    !(Text.isBlank char) && char ≠ '-' && char ≠ '_' && char.toNat < 0x80).map
      Text.lowerAsciiChar
  let core :=
    match Text.dropPiece? ['i', 's'] kept with
    | some rest => if kept = ['i', 's', 'c'] then kept else rest
    | none => kept
  String.ofList core

def findCategory? (name : String) : Option CodeRanges :=
  if name = "any" then some [(0, CodeRanges.lastCode)]
  else if name = "assigned" then
    some (CodeRanges.complement unassignedMembers)
  else if name = "ascii" then some [(0, 0x7F)]
  else if name = "cn" ∨ name = "unassigned" then some unassignedMembers
  else if name = "c" ∨ name = "other" then
    some (CodeRanges.union (categoryMembers ["cc", "cf", "co"]) unassignedMembers)
  else if name = "cntrl" then some (categoryMembers ["cc"])
  else if name = "digit" then some (categoryMembers ["nd"])
  else
    match categories.find? fun category =>
        category.short = name ∨ category.long = name with
    | some category => some category.members
    | none =>
        (categoryGroups.find? fun (names, _) => names.contains name).map
          fun (_, shorts) => categoryMembers shorts

def findScript? (name : String) : Option CodeRanges :=
  (scripts.find? fun (names, _) => names.contains name).map Prod.snd

def findBinary? (name : String) : Option CodeRanges :=
  if name = "alphabetic" ∨ name = "alpha" then some alphabeticMembers
  else if name = "lowercase" ∨ name = "lower" then
    some (readRanges lowercaseRanges)
  else if name = "uppercase" ∨ name = "upper" then
    some (readRanges uppercaseRanges)
  else if name = "whitespace" ∨ name = "wspace" ∨ name = "space" then
    some whiteSpaceMembers
  else if name = "joinc" ∨ name = "joincontrol" then some [(0x200C, 0x200D)]
  else if name = "asciihexdigit" ∨ name = "ahex" then
    some [(0x30, 0x39), (0x41, 0x46), (0x61, 0x66)]
  else none

/-- A name alone is a property that is true or false, a category or a script;
the short names of three categories win over properties of the same name. -/
def findProperty? (name : String) : Option CodeRanges :=
  let loose := looseName name
  let binary :=
    if loose = "cf" ∨ loose = "sc" ∨ loose = "lc" then none
    else findBinary? loose
  binary <|> findCategory? loose <|> findScript? loose

/-- A property with a value, such as `script=greek`. -/
def findPropertyValue? (property value : String) : Option CodeRanges :=
  let loose := looseName property
  if loose = "generalcategory" ∨ loose = "gc" then
    findCategory? (looseName value)
  else if loose = "script" ∨ loose = "sc" ∨ loose = "scriptextensions" ∨
      loose = "scx" then
    findScript? (looseName value)
  else none

/-- The sets of code points that have names: under a name alone, and under the name
of a property and one of its values. -/
class NamedSets where
  property? : String → Option CodeRanges
  propertyValue? : String → String → Option CodeRanges

instance : NamedSets := ⟨findProperty?, findPropertyValue?⟩

/-- All pairs of a character and the one it folds to. -/
def foldPairs : List (Nat × Nat) :=
  (readRuns foldRuns).flatMap CaseRun.members

/-- Adds to a set all characters that fold to the same one as a member. -/
def closeUnderFolding (ranges : CodeRanges) : CodeRanges :=
  let touched := foldPairs.filterMap fun (code, image) =>
    if ranges.contains code || ranges.contains image then some image else none
  let added := foldPairs.flatMap fun (code, image) =>
    if touched.contains image then [(code, code), (image, image)] else []
  CodeRanges.normalize (ranges ++ added)

end EdgeGateway.Unicode
