import EdgeGateway.Regex.Basic
import EdgeGateway.Text.Numeral

/-!
# Reading patterns

A pattern is read in one pass from left to right.  Flags set inside a group hold
to its end, over later alternatives too.  With the flag `x`, white space between
the parts of a pattern and comments from `#` to the end of a line are skipped.
Every step that reads on has consumed a character, so the length of the pattern
bounds the depth of the recursion.  Which sets of characters have names is left to
whoever reads.
-/

namespace EdgeGateway.Regex

open Unicode (CodeRanges NamedSets)

structure Flags where
  ignoreCase : Bool := false
  multiLine : Bool := false
  dotMatchesNewline : Bool := false
  swapGreed : Bool := false
  unicode : Bool := true
  crlf : Bool := false
  verbose : Bool := false
  deriving Repr, DecidableEq

/-- What is left to read, the flags in force, and the groups opened so far. -/
structure Scan where
  rest : List Char
  flags : Flags
  groupCount : Nat
  groupNames : List (String × Nat)

abbrev Reader := StateT Scan (Except SyntaxError)

namespace Reader

def peek : Reader (Option Char) := do return (← get).rest.head?

def rest : Reader (List Char) := do return (← get).rest

def setRest (rest : List Char) : Reader Unit :=
  modify fun scan => { scan with rest := rest }

def advance : Reader Unit :=
  modify fun scan => { scan with rest := scan.rest.tail }

end Reader

open Reader

/-- Drops white space and comments. -/
def dropSpace : Bool → List Char → List Char
  | _, [] => []
  | true, char :: rest => dropSpace (char ≠ '\n') rest
  | false, char :: rest =>
      if Text.isBlank char then dropSpace false rest
      else if char = '#' then dropSpace true rest
      else char :: rest

def afterSpace (flags : Flags) (text : List Char) : List Char :=
  if flags.verbose then dropSpace false text else text

def skipSpace : Reader Unit :=
  modify fun scan => { scan with rest := afterSpace scan.flags scan.rest }

/-- Moves past one character and then past space. -/
def step : Reader Unit := do
  advance
  skipSpace

def isMeta (char : Char) : Bool :=
  "\\.+*?()|[]\x7b\x7d^$#&-~".toList.contains char

def isEscapable (char : Char) : Bool :=
  isMeta char ||
    (char.toNat < 0x80 && !Text.isAsciiAlphanumeric char &&
      char ≠ '<' && char ≠ '>')

def asciiWord : CodeRanges := [(0x30, 0x39), (0x41, 0x5A), (0x5F, 0x5F), (0x61, 0x7A)]

def asciiSpace : CodeRanges := [(0x09, 0x0D), (0x20, 0x20)]

/-- The members of a class written with one letter, such as `\d`. -/
def perlClass? (unicode : Bool) (letter : Char) : Option CodeRanges :=
  match letter with
  | 'd' | 'D' => some (if unicode then Unicode.digitMembers else [(0x30, 0x39)])
  | 's' | 'S' => some (if unicode then Unicode.whiteSpaceMembers else asciiSpace)
  | 'w' | 'W' => some (if unicode then Unicode.wordMembers else asciiWord)
  | _ => none

def asciiClass? (name : String) : Option CodeRanges :=
  match name with
  | "alnum" => some [(0x30, 0x39), (0x41, 0x5A), (0x61, 0x7A)]
  | "alpha" => some [(0x41, 0x5A), (0x61, 0x7A)]
  | "ascii" => some [(0x00, 0x7F)]
  | "blank" => some [(0x09, 0x09), (0x20, 0x20)]
  | "cntrl" => some [(0x00, 0x1F), (0x7F, 0x7F)]
  | "digit" => some [(0x30, 0x39)]
  | "graph" => some [(0x21, 0x7E)]
  | "lower" => some [(0x61, 0x7A)]
  | "print" => some [(0x20, 0x7E)]
  | "punct" => some [(0x21, 0x2F), (0x3A, 0x40), (0x5B, 0x60), (0x7B, 0x7E)]
  | "space" => some asciiSpace
  | "upper" => some [(0x41, 0x5A)]
  | "word" => some asciiWord
  | "xdigit" => some [(0x30, 0x39), (0x41, 0x46), (0x61, 0x66)]
  | _ => none

/-- Adds the other case of the ASCII letters of a set. -/
def closeUnderAsciiCase (ranges : CodeRanges) : CodeRanges :=
  CodeRanges.normalize <|
    ranges ++
      (CodeRanges.inter ranges [(0x41, 0x5A)]).map
        (fun (first, final) => (first + 32, final + 32)) ++
      (CodeRanges.inter ranges [(0x61, 0x7A)]).map
        (fun (first, final) => (first - 32, final - 32))

def foldIfAsked (flags : Flags) (ranges : CodeRanges) : CodeRanges :=
  if flags.ignoreCase then
    if flags.unicode then Unicode.closeUnderFolding ranges
    else closeUnderAsciiCase ranges
  else ranges

/-- Outside Unicode mode a set is one of bytes. -/
def negateIf (flags : Flags) (negated : Bool) (ranges : CodeRanges) : CodeRanges :=
  if negated then
    if flags.unicode then CodeRanges.complement ranges
    else CodeRanges.inter (CodeRanges.complement ranges) [(0x00, 0xFF)]
  else CodeRanges.normalize ranges

/-- A set as an expression; bytes beyond ASCII are no text. -/
def setExpr (flags : Flags) (ranges : CodeRanges) : Except SyntaxError Expr :=
  if !flags.unicode && ranges.any (fun (_, final) => final ≥ 0x80) then
    .error .notText
  else .ok (.oneOf ranges)

/-- One item that an escape, or a character that needs none, stands for. -/
inductive Primitive where
  /-- `isByte` marks a two-digit hexadecimal escape. -/
  | literal (char : Char) (isByte : Bool)
  | assertion (condition : Assertion)
  | class (members : CodeRanges)

def readHexDigits : Nat → Nat → Reader Nat
  | 0, value => return value
  | count + 1, value => do
      match ← peek with
      | none => throw .unfinishedEscape
      | some char =>
          match Unicode.hexDigit? char with
          | none => throw .invalidCodePoint
          | some digit =>
              step
              readHexDigits count (value * 16 + digit)

def charOfCode (code : Nat) : Reader Char :=
  if h : code.isValidChar then return Char.ofNatAux code h
  else throw .invalidCodePoint

/-- Characters up to a closing brace, without space; the brace is consumed. -/
def readBraced (flags : Flags) : Nat → List Char → Option (List Char × List Char)
  | 0, _ => none
  | fuel + 1, text =>
      match afterSpace flags text with
      | [] => none
      | char :: rest =>
          if char = '}' then some ([], rest)
          else (readBraced flags fuel rest).map fun (body, left) => (char :: body, left)

def readHex (kind : Char) : Reader Primitive := do
  step
  match ← peek with
  | none => throw .unfinishedEscape
  | some '{' =>
      let scan ← get
      match readBraced scan.flags (scan.rest.length + 1) scan.rest.tail with
      | none => throw .unfinishedEscape
      | some (body, left) =>
          setRest left
          match Unicode.hexValue? body with
          | none => throw .invalidCodePoint
          | some code => return .literal (← charOfCode code) (kind = 'x')
  | some _ =>
      let count := if kind = 'x' then 2 else if kind = 'u' then 4 else 8
      let code ← readHexDigits count 0
      return .literal (← charOfCode code) (kind = 'x')

def propertyOf [NamedSets] (name : List Char) : Except SyntaxError (CodeRanges × Bool) :=
  let text := String.ofList name
  let named (property value : String) (negated : Bool) :=
    match NamedSets.propertyValue? property value with
    | some members => Except.ok (members, negated)
    | none => .error .unknownProperty
  match Text.splitFirst? '=' text with
  | some (property, value) =>
      if property.toList.getLast? = some '!' then
        named (String.ofList property.toList.dropLast) value true
      else
        match Text.splitFirst? ':' text with
        | some (before, after) => named before after false
        | none => named property value false
  | none =>
      match Text.splitFirst? ':' text with
      | some (before, after) => named before after false
      | none =>
          match NamedSets.property? text with
          | some members => .ok (members, false)
          | none => .error .unknownProperty

def readProperty [NamedSets] (negated : Bool) : Reader Primitive := do
  step
  let scan ← get
  if !scan.flags.unicode then throw .notText
  match scan.rest with
  | [] => throw .unfinishedEscape
  | '{' :: text =>
      match readBraced scan.flags (text.length + 1) text with
      | none => throw .unfinishedEscape
      | some (body, left) =>
          setRest left
          let (members, inverted) ← propertyOf body
          return .class (negateIf scan.flags (negated != inverted)
            (foldIfAsked scan.flags members))
  | char :: left =>
      if char = '\\' then throw .unknownProperty
      setRest left
      let (members, _) ← propertyOf [char]
      return .class (negateIf scan.flags negated (foldIfAsked scan.flags members))

/-- After `\b`: a word assertion in braces, unless a count follows. -/
def readWordBoundary : Reader Primitive := do
  let scan ← get
  match scan.rest with
  | '{' :: text =>
      match afterSpace scan.flags text with
      | [] => throw .unclosedCount
      | char :: _ =>
          if !(Text.isAsciiLetter char || char = '-') then
            return .assertion .wordBoundary
          match readBraced scan.flags (text.length + 1) text with
          | none => throw .unknownEscape
          | some (body, left) =>
              setRest left
              match String.ofList body with
              | "start" => return .assertion .wordStart
              | "end" => return .assertion .wordEnd
              | "start-half" => return .assertion .wordStartHalf
              | "end-half" => return .assertion .wordEndHalf
              | _ => throw .unknownEscape
  | _ => return .assertion .wordBoundary

/-- Reads what follows a backslash, which has been consumed. -/
def readEscape [NamedSets] : Reader Primitive := do
  let flags := (← get).flags
  match ← peek with
  | none => throw .unfinishedEscape
  | some char =>
      if Text.isAsciiDigit char then throw .unknownEscape
      else if char = 'x' ∨ char = 'u' ∨ char = 'U' then readHex char
      else if char = 'p' ∨ char = 'P' then readProperty (char = 'P')
      else
        match perlClass? flags.unicode char with
        | some members =>
            advance
            return .class (negateIf flags ('A' ≤ char && char ≤ 'Z') members)
        | none =>
            advance
            if isEscapable char then return .literal char false
            match char with
            | 'a' => return .literal '\x07' false
            | 'f' => return .literal '\x0C' false
            | 't' => return .literal '\t' false
            | 'n' => return .literal '\n' false
            | 'r' => return .literal '\r' false
            | 'v' => return .literal '\x0B' false
            | 'A' => return .assertion .textStart
            | 'z' => return .assertion .textEnd
            | 'b' => readWordBoundary
            | 'B' => return .assertion .notWordBoundary
            | '<' => return .assertion .wordStart
            | '>' => return .assertion .wordEnd
            | _ => throw .unknownEscape

def literalExpr (flags : Flags) (char : Char) (isByte : Bool) :
    Except SyntaxError Expr :=
  if !flags.unicode && isByte && char.toNat ≥ 0x80 then .error .notText
  else if !flags.unicode && char.toNat ≥ 0x80 then .ok (.char char)
  else .ok (.oneOf (foldIfAsked flags [(char.toNat, char.toNat)]))

def primitiveExpr (flags : Flags) : Primitive → Except SyntaxError Expr
  | .literal char isByte => literalExpr flags char isByte
  | .assertion condition => .ok (.assertion condition flags.unicode)
  | .class members => setExpr flags members

/-! ## Classes in brackets -/

inductive SetOperation where
  | intersection
  | difference
  | symmetricDifference

namespace SetOperation

def apply (operation : SetOperation) (left right : CodeRanges) : CodeRanges :=
  match operation with
  | intersection => CodeRanges.inter left right
  | difference => CodeRanges.diff left right
  | symmetricDifference => CodeRanges.symmDiff left right

end SetOperation

/-- The left operand of an operation, when one is pending. -/
def combine (flags : Flags) (pending : Option (CodeRanges × SetOperation))
    (items : CodeRanges) : CodeRanges :=
  match pending with
  | none => items
  | some (left, operation) =>
      operation.apply (foldIfAsked flags left) (foldIfAsked flags items)

/-- A class such as `[:alpha:]` at the head of the text, and what follows it. -/
def readAsciiClass? (text : List Char) : Option (CodeRanges × Bool × List Char) :=
  match text with
  | '[' :: ':' :: body =>
      let (negated, body) :=
        match body with
        | '^' :: rest => (true, rest)
        | _ => (false, body)
      match Text.splitAtFirst? ':' body with
      | some (name, ']' :: rest) =>
          (asciiClass? (String.ofList name)).map fun members =>
            (members, negated, rest)
      | _ => none
  | _ => none

def readClassItem [NamedSets] : Reader Primitive := do
  match ← peek with
  | none => throw .unclosedClass
  | some '\\' =>
      advance
      readEscape
  | some char =>
      advance
      return .literal char false

def classMembers (flags : Flags) : Primitive → Except SyntaxError CodeRanges
  | .literal char isByte =>
      if !flags.unicode && char.toNat ≥ 0x80 && !isByte then .error .notText
      else .ok [(char.toNat, char.toNat)]
  | .class members => .ok members
  | .assertion _ => .error .invalidClassItem

def classEnd (flags : Flags) : Primitive → Except SyntaxError Nat
  | .literal char isByte =>
      if !flags.unicode && char.toNat ≥ 0x80 && !isByte then .error .notText
      else .ok char.toNat
  | _ => .error .invalidClassItem

/-- One character, one class or one range. -/
def readClassRange [NamedSets] : Reader CodeRanges := do
  let flags := (← get).flags
  let first ← readClassItem
  skipSpace
  match ← rest with
  | [] => throw .unclosedClass
  | char :: text =>
      let next := (afterSpace flags text).head?
      if char ≠ '-' ∨ next = some ']' ∨ next = some '-' then
        classMembers flags first
      else
        step
        let final ← readClassItem
        let low ← classEnd flags first
        let high ← classEnd flags final
        if low ≤ high then return [(low, high)]
        else throw .invalidClassRange

/-- The hyphens at the start of a class, which stand for themselves. -/
def readLeadingHyphens : Nat → Bool → Reader Bool
  | 0, seen => return seen
  | fuel + 1, seen => do
      match ← peek with
      | some '-' =>
          step
          readLeadingHyphens fuel true
      | _ => return seen

/-- Reads the opening bracket: whether the class is negated, and the characters
that stand for themselves because they come first. -/
def readClassOpen : Reader (Bool × CodeRanges) := do
  step
  let negated ← do
    match ← peek with
    | some '^' =>
        step
        pure true
    | _ => pure false
  let hyphen ← readLeadingHyphens (← rest).length false
  match ← peek with
  | none => throw .unclosedClass
  | some ']' =>
      if hyphen then return (negated, [(0x2D, 0x2D)])
      step
      if (← peek).isNone then throw .unclosedClass
      return (negated, [(0x5D, 0x5D)])
  | some _ => return (negated, if hyphen then [(0x2D, 0x2D)] else [])

/-- Reads the inside of a class up to and with its closing bracket. -/
def readClassBody [NamedSets] : Nat → Bool → Option (CodeRanges × SetOperation) →
    CodeRanges → Reader CodeRanges
  | 0, _, _, _ => throw .unclosedClass
  | fuel + 1, negated, pending, items => do
      skipSpace
      let flags := (← get).flags
      let operation (operation : SetOperation) : Reader CodeRanges := do
        advance
        advance
        readClassBody fuel negated
          (some (combine flags pending items, operation)) []
      match ← rest with
      | [] => throw .unclosedClass
      | '[' :: text =>
          match readAsciiClass? ('[' :: text) with
          | some (members, inverted, left) =>
              setRest left
              readClassBody fuel negated pending
                (items ++ negateIf flags inverted (foldIfAsked flags members))
          | none =>
              let (inverted, first) ← readClassOpen
              let members ← readClassBody fuel inverted none first
              readClassBody fuel negated pending (items ++ members)
      | ']' :: text =>
          setRest text
          return negateIf flags negated
            (foldIfAsked flags (combine flags pending items))
      | '&' :: '&' :: _ => operation .intersection
      | '-' :: '-' :: _ => operation .difference
      | '~' :: '~' :: _ => operation .symmetricDifference
      | _ =>
          let members ← readClassRange
          readClassBody fuel negated pending (items ++ members)

def readClass [NamedSets] : Reader Expr := do
  let (negated, first) ← readClassOpen
  let members ← readClassBody ((← rest).length + 1) negated none first
  setExpr (← get).flags members

/-! ## Repetition -/

/-- A decimal numeral with blanks around it. -/
def readCount : Reader (Option Nat) := do
  let flags := (← get).flags
  let text := (← rest).dropWhile Text.isBlank
  let digits := text.takeWhile Text.isAsciiDigit
  setRest (afterSpace flags ((text.drop digits.length).dropWhile Text.isBlank))
  if digits = [] then return none
  match Text.readDigits Text.limit32 0 digits with
  | .ok value => return some value
  | .error _ => throw .invalidCount

/-- Reads the counts in braces; the brace that opens them is still there. -/
def readCounts : Reader (Nat × Option Nat) := do
  step
  if (← peek).isNone then throw .unclosedCount
  let least ← readCount
  match ← peek with
  | none => throw .unclosedCount
  | some ',' =>
      step
      match ← peek with
      | none => throw .unclosedCount
      | some '}' =>
          match least with
          | none => throw .emptyCount
          | some least =>
              step
              return (least, none)
      | some _ =>
          match least with
          | none => throw .emptyCount
          | some least =>
              match ← readCount with
              | none => throw .emptyCount
              | some most =>
                  if (← peek) ≠ some '}' then throw .unclosedCount
                  step
                  if most < least then throw .invalidCount
                  return (least, some most)
  | some char =>
      match least with
      | none => throw .emptyCount
      | some least =>
          if char ≠ '}' then throw .unclosedCount
          step
          return (least, some least)

/-- A question mark after a repetition makes it prefer fewer turns. -/
def readGreed : Reader Bool := do
  let flags := (← get).flags
  match ← peek with
  | some '?' =>
      advance
      return flags.swapGreed
  | _ => return !flags.swapGreed

/-! ## Groups and flags -/

def isNameStart (char : Char) : Bool :=
  char = '_' || Unicode.alphabeticMembers.containsChar char

def isNameChar (char : Char) : Bool :=
  isNameStart char || char = '.' || char = '[' || char = ']' ||
    (Unicode.categoryMembers ["nd", "nl", "no"]).containsChar char

/-- The name of a group up to `>`, which is consumed. -/
def readGroupName : Reader String := do
  let text ← rest
  match Text.splitAtFirst? '>' text with
  | none => throw .invalidGroupName
  | some ([], _) => throw .emptyGroupName
  | some (first :: others, left) =>
      if !(isNameStart first && others.all isNameChar) then
        throw .invalidGroupName
      let name := String.ofList (first :: others)
      if (← get).groupNames.any fun (known, _) => known = name then
        throw (.duplicateGroupName name)
      setRest left
      return name

def openGroup (name : Option String) : Reader Nat := do
  let index := (← get).groupCount + 1
  modify fun scan =>
    { scan with
      groupCount := index
      groupNames :=
        match name with
        | some name => scan.groupNames ++ [(name, index)]
        | none => scan.groupNames }
  return index

def setFlag (flags : Flags) (letter : Char) (value : Bool) : Option Flags :=
  match letter with
  | 'i' => some { flags with ignoreCase := value }
  | 'm' => some { flags with multiLine := value }
  | 's' => some { flags with dotMatchesNewline := value }
  | 'U' => some { flags with swapGreed := value }
  | 'u' => some { flags with unicode := value }
  | 'R' => some { flags with crlf := value }
  | 'x' => some { flags with verbose := value }
  | _ => none

/-- Reads flag letters up to `:` or `)`, which is left; also says whether there
was any letter or sign at all. -/
def readFlagLetters (flags : Flags) (negated : Bool) (seen : List Char)
    (text : List Char) : Except SyntaxError (Flags × Bool × List Char) :=
  match text with
  | [] => .error .invalidFlag
  | char :: rest =>
      if char = ':' ∨ char = ')' then
        if seen.head? = some '-' then .error .invalidFlag
        else .ok (flags, !seen.isEmpty, char :: rest)
      else if char = '-' then
        if negated then .error .invalidFlag
        else readFlagLetters flags true ('-' :: seen) rest
      else if seen.contains char then .error .invalidFlag
      else
        match setFlag flags char (!negated) with
        | none => .error .invalidFlag
        | some flags => readFlagLetters flags negated (char :: seen) rest

/-- How a parenthesis opens. -/
inductive Opening where
  | capturing (index : Nat)
  | plain (flags : Flags)
  | flagsOnly (flags : Flags)

/-- Reads what follows an opening parenthesis, which has been consumed. -/
def readOpening : Reader Opening := do
  skipSpace
  match ← rest with
  | '?' :: '=' :: _ => throw .lookAround
  | '?' :: '!' :: _ => throw .lookAround
  | '?' :: '<' :: '=' :: _ => throw .lookAround
  | '?' :: '<' :: '!' :: _ => throw .lookAround
  | '?' :: 'P' :: '<' :: text =>
      setRest text
      return .capturing (← openGroup (some (← readGroupName)))
  | '?' :: '<' :: text =>
      setRest text
      return .capturing (← openGroup (some (← readGroupName)))
  | '?' :: text =>
      if text = [] then throw .unclosedGroup
      let (flags, any, left) ← readFlagLetters (← get).flags false [] text
      setRest left.tail
      if left.head? = some ')' then
        if any then return .flagsOnly flags else throw .nothingToRepeat
      else return .plain flags
  | _ => return .capturing (← openGroup none)

/-! ## The whole pattern -/

def dotMembers (flags : Flags) : CodeRanges :=
  if flags.dotMatchesNewline then CodeRanges.complement []
  else if flags.crlf then CodeRanges.complement [(0x0A, 0x0A), (0x0D, 0x0D)]
  else CodeRanges.complement [(0x0A, 0x0A)]

def caretAssertion (flags : Flags) : Assertion :=
  if flags.multiLine then
    if flags.crlf then .lineStartCrlf else .lineStart
  else .textStart

def dollarAssertion (flags : Flags) : Assertion :=
  if flags.multiLine then
    if flags.crlf then .lineEndCrlf else .lineEnd
  else .textEnd

/-- Reads one part that is no group and no repetition. -/
def readPart [NamedSets] (char : Char) : Reader Expr := do
  let flags := (← get).flags
  advance
  match char with
  | '\\' => primitiveExpr flags (← readEscape)
  | '.' =>
      if flags.unicode then return .oneOf (dotMembers flags) else throw .notText
  | '^' => return .assertion (caretAssertion flags) flags.unicode
  | '$' => return .assertion (dollarAssertion flags) flags.unicode
  | _ => literalExpr flags char false

/-- Reads alternatives up to the end of the text or the parenthesis that closes
`depth` open groups, which is left.  `branches` and `parts` hold what was read
so far, last first; `repeatable` says whether the last part can be repeated. -/
def readBranches [NamedSets] : Nat → Nat → List Expr → List Expr → Bool → Reader Expr
  | 0, _, _, _, _ => throw .tooDeep
  | fuel + 1, depth, branches, parts, repeatable => do
      skipSpace
      let repeatLast (least : Nat) (most : Option Nat) (greedy : Bool) :
          Reader Expr :=
        match parts with
        | [] => throw .nothingToRepeat
        | part :: earlier =>
            readBranches fuel depth branches
              (.iterate part least most greedy :: earlier) true
      let finished := Expr.choice (Expr.sequence parts.reverse :: branches).reverse
      match ← peek with
      | none => if depth = 0 then return finished else throw .unclosedGroup
      | some ')' => if depth = 0 then throw .unopenedGroup else return finished
      | some '|' =>
          advance
          readBranches fuel depth
            (Expr.sequence parts.reverse :: branches) [] false
      | some '(' =>
          advance
          let outside := (← get).flags
          match ← readOpening with
          | .flagsOnly flags =>
              modify fun scan => { scan with flags := flags }
              readBranches fuel depth branches parts false
          | .plain flags =>
              modify fun scan => { scan with flags := flags }
              let inner ← readBranches fuel (depth + 1) [] [] false
              modify fun scan =>
                { scan with flags := outside, rest := scan.rest.tail }
              readBranches fuel depth branches (.group none inner :: parts) true
          | .capturing index =>
              let inner ← readBranches fuel (depth + 1) [] [] false
              modify fun scan =>
                { scan with flags := outside, rest := scan.rest.tail }
              readBranches fuel depth branches (.group (some index) inner :: parts) true
      | some '[' =>
          let set ← readClass
          readBranches fuel depth branches (set :: parts) true
      | some char =>
          if char = '*' ∨ char = '+' ∨ char = '?' ∨ char = '{' then
            if parts = [] ∨ !repeatable then throw .nothingToRepeat
            if char = '{' then
              let (least, most) ← readCounts
              repeatLast least most (← readGreed)
            else
              advance
              let greedy ← readGreed
              if char = '*' then repeatLast 0 none greedy
              else if char = '+' then repeatLast 1 none greedy
              else repeatLast 0 (some 1) greedy
          else
            let part ← readPart char
            readBranches fuel depth branches (part :: parts) true

/-- What is read of a pattern: what it means, and the number of each named group. -/
structure Reading where
  expr : Expr
  groupNames : List (String × Nat)
  deriving Repr

/-- Reads a whole pattern. -/
def read [NamedSets] (source : String) : Except SyntaxError Reading := do
  let text := source.toList
  let (expr, scan) ←
    (readBranches (2 * text.length + 2) 0 [] [] false).run ⟨text, {}, 0, []⟩
  return ⟨expr, scan.groupNames⟩

namespace Pattern

/-- A pattern made of an expression, unless it is too large. -/
def ofExpr (source : String) (expr : Expr) (groupNames : List (String × Nat)) :
    Except SyntaxError Pattern :=
  if expr.weight > Expr.weightLimit then .error .tooLarge
  else .ok ⟨source, expr, groupNames⟩

def compile [NamedSets] (source : String) : Except SyntaxError Pattern := do
  let reading ← read source
  if reading.expr.nesting > Expr.nestingLimit then throw .tooDeep
  ofExpr source reading.expr reading.groupNames

end Pattern

end EdgeGateway.Regex
