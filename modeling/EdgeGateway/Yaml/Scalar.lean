import EdgeGateway.Unicode.CodeRanges
import EdgeGateway.Yaml.Cursor

/-!
# Scalars

The texts of a document.  Plain and quoted scalars may go on over several lines:
one line end between two lines is a space, and of more line ends all but one are
kept.  A literal block keeps its lines, and a folded block joins those that are
not indented further.
-/

namespace EdgeGateway.Yaml

/-- What separates two parts of a scalar, before it is known whether another
part follows. -/
inductive Gap where
  /-- Blanks within a line, last first. -/
  | blanks (reversed : List Char)
  /-- So many line ends. -/
  | folded (count : Nat)
  /-- An escaped line end, and so many more. -/
  | joined (count : Nat)

namespace Gap

def none : Gap := .blanks []

/-- The characters that a gap stands for, last first. -/
def reversedText : Gap → List Char
  | blanks reversed => reversed
  | folded 1 => [' ']
  | folded count => List.replicate (count - 1) '\n'
  | joined count => List.replicate count '\n'

def addBlank (char : Char) : Gap → Gap
  | blanks reversed => blanks (char :: reversed)
  | gap => gap

def addBreak : Gap → Gap
  | blanks _ => folded 1
  | folded count => folded (count + 1)
  | joined count => joined (count + 1)

end Gap

/-- Adds a gap and a character to the characters so far, last first. -/
def addPart (read : List Char) (gap : Gap) (char : Char) : List Char :=
  char :: (gap.reversedText ++ read)

/-! ## Plain scalars -/

/-- Whether a plain scalar can start here. -/
def startsPlain (flow : Bool) : List Char → Bool
  | [] => false
  | '-' :: rest => !isBlankOrMark rest
  | '?' :: rest => !flow && !atBlank rest
  | ':' :: rest => !flow && !atBlank rest
  | char :: _ => !isIndicator char
where
  isBlankOrMark (rest : List Char) : Bool :=
    atBlank rest || (flow && rest.head?.any isFlowMark)

/-- Whether a plain scalar ends before a character. -/
def endsPlain (flow : Bool) (char : Char) (rest : List Char) : Bool :=
  (char = ':' && (atBlank rest || (flow && rest.head?.any isFlowMark))) ||
    (flow && isFlowMark char)

/-- A plain scalar up to the end of its line: its text, and what follows its
last character. -/
def plainLine (flow : Bool) (read blanks : List Char) :
    List Char → List Char × List Char
  | [] => (read, blanks.reverse)
  | char :: rest =>
      if isBreak char then (read, blanks.reverse ++ char :: rest)
      else if isSpace char then plainLine flow read (char :: blanks) rest
      else if endsPlain flow char rest ∨ (char = '#' ∧ blanks ≠ []) then
        (read, blanks.reverse ++ char :: rest)
      else plainLine flow (char :: (blanks ++ read)) [] rest

/-- Line ends and blanks: how many line ends, the column, and what follows. -/
def overLines (count column : Nat) : List Char → Nat × Nat × List Char
  | [] => (count, column, [])
  | char :: rest =>
      if isBreak char then overLines (count + 1) 0 rest
      else if isSpace char then overLines count (column + 1) rest
      else (count, column, char :: rest)

/-- Goes on with a plain scalar in the lines that are indented enough. -/
def plainLines (flow : Bool) (least : Nat) :
    Nat → List Char → List Char → List Char × List Char
  | 0, read, rest => (read, rest)
  | fuel + 1, read, rest =>
      let (breaks, column, next) := overLines 0 0 rest
      match next with
      | [] => (read, rest)
      | char :: after =>
          let place : Cursor := ⟨next, column, []⟩
          if breaks = 0 ∨ char = '#' ∨ endsPlain flow char after ∨
              place.atMarker ∨ (!flow ∧ column < least) then (read, rest)
          else
            let folded := (Gap.folded breaks).reversedText ++ read
            let (read, rest) := plainLine flow folded [] next
            plainLines flow least fuel read rest

def readPlain (flow : Bool) (least : Nat) (cursor : Cursor) : String × Cursor :=
  let (read, rest) := plainLine flow [] [] cursor.rest
  let (read, rest) := plainLines flow least rest.length read rest
  (String.ofList read.reverse, cursor.moveTo rest)

/-! ## Quoted scalars -/

def readSingleQuoted : Nat → List Char → Gap → List Char →
    Except Fault (String × List Char)
  | 0, _, _, _ => .error .unclosedQuote
  | _, _, _, [] => .error .unclosedQuote
  | fuel + 1, read, gap, char :: rest =>
      if char = '\'' then
        match rest with
        | '\'' :: rest => readSingleQuoted fuel (addPart read gap '\'') .none rest
        | _ => .ok (String.ofList (gap.reversedText ++ read).reverse, rest)
      else if isBreak char then readSingleQuoted fuel read gap.addBreak rest
      else if isSpace char then readSingleQuoted fuel read (gap.addBlank char) rest
      else readSingleQuoted fuel (addPart read gap char) .none rest

/-- A character by its number in so many hexadecimal digits. -/
def codeEscape? (digits : Nat) (text : List Char) : Option (Char × List Char) := do
  let values ← (text.take digits).mapM Unicode.hexDigit?
  if values.length < digits then none
  else
    let code := values.foldl (fun code value => code * 16 + value) 0
    if h : code.isValidChar then some (Char.ofNatAux code h, text.drop digits)
    else none

def escape? : List Char → Option (Char × List Char)
  | [] => none
  | char :: rest =>
      match char with
      | '0' => some (Char.ofNat 0, rest)
      | 'a' => some (Char.ofNat 7, rest)
      | 'b' => some (Char.ofNat 8, rest)
      | 't' => some ('\t', rest)
      | '\t' => some ('\t', rest)
      | 'n' => some ('\n', rest)
      | 'v' => some (Char.ofNat 11, rest)
      | 'f' => some (Char.ofNat 12, rest)
      | 'r' => some ('\r', rest)
      | 'e' => some (Char.ofNat 27, rest)
      | ' ' => some (' ', rest)
      | '"' => some ('"', rest)
      | '/' => some ('/', rest)
      | '\\' => some ('\\', rest)
      | 'N' => some (Char.ofNat 0x85, rest)
      | '_' => some (Char.ofNat 0xA0, rest)
      | 'L' => some (Char.ofNat 0x2028, rest)
      | 'P' => some (Char.ofNat 0x2029, rest)
      | 'x' => codeEscape? 2 rest
      | 'u' => codeEscape? 4 rest
      | 'U' => codeEscape? 8 rest
      | _ => none

def readDoubleQuoted : Nat → List Char → Gap → List Char →
    Except Fault (String × List Char)
  | 0, _, _, _ => .error .unclosedQuote
  | _, _, _, [] => .error .unclosedQuote
  | fuel + 1, read, gap, char :: rest =>
      if char = '"' then
        .ok (String.ofList (gap.reversedText ++ read).reverse, rest)
      else if char = '\\' then
        match rest with
        | '\n' :: rest =>
            readDoubleQuoted fuel (gap.reversedText ++ read) (.joined 0) rest
        | rest =>
            match escape? rest with
            | some (escaped, rest) =>
                readDoubleQuoted fuel (addPart read gap escaped) .none rest
            | none => .error .invalidEscape
      else if isBreak char then readDoubleQuoted fuel read gap.addBreak rest
      else if isSpace char then readDoubleQuoted fuel read (gap.addBlank char) rest
      else readDoubleQuoted fuel (addPart read gap char) .none rest

/-- A quoted scalar, from its first quote on. -/
def readQuoted (cursor : Cursor) : Except Fault (String × Cursor) := do
  let (text, rest) ←
    match cursor.rest with
    | '\'' :: rest => readSingleQuoted (rest.length + 1) [] .none rest
    | '"' :: rest => readDoubleQuoted (rest.length + 1) [] .none rest
    | _ => .error .unexpectedCharacter
  return (text, cursor.moveTo rest)

/-! ## Blocks of lines -/

/-- Which line ends at the end of a block are kept. -/
inductive Chomping where
  | strip
  | clip
  | keep

structure BlockHeader where
  folded : Bool
  chomping : Chomping := .clip
  indentation : Option Nat := none

def readHeader (header : BlockHeader) :
    List Char → Except Fault (BlockHeader × List Char)
  | [] => .ok (header, [])
  | char :: rest =>
      if char = '-' then readHeader { header with chomping := .strip } rest
      else if char = '+' then readHeader { header with chomping := .keep } rest
      else if Text.isAsciiDigit char ∧ char ≠ '0' then
        readHeader
          { header with indentation := some (char.toNat - '0'.toNat) } rest
      else
        let after := (char :: rest).dropWhile isSpace
        let after :=
          if after.head? = some '#' then after.dropWhile fun c => !isBreak c
          else after
        match after with
        | [] => .ok (header, [])
        | char :: rest =>
            if isBreak char then .ok (header, rest) else .error .invalidHeader

/-- A line of a block: empty, or text without its indentation. -/
def blockLine? (indentation : Nat) (line : List Char) : Option (List Char) :=
  let spaces := (line.takeWhile (· = ' ')).length
  if indentation ≤ spaces then some (line.drop indentation)
  else if line.length = spaces then some []
  else none

/-- The lines of a block and what follows them. -/
def blockLines (indentation : Nat) : List (List Char) →
    List (List Char) × List (List Char)
  | [] => ([], [])
  | line :: lines =>
      match blockLine? indentation line with
      | some text =>
          let (texts, rest) := blockLines indentation lines
          (text :: texts, rest)
      | none => ([], line :: lines)

/-- The indentation of the first line with text, and at least that of the empty
lines before it. -/
def detectIndentation (least : Nat) : List (List Char) → Nat
  | [] => least
  | line :: lines =>
      let spaces := (line.takeWhile (· = ' ')).length
      if line.length = spaces then detectIndentation (max least spaces) lines
      else max least spaces

/-- Joins the lines of a block.  `breaks` counts the line ends since the last
text, and `indented` says whether that text was indented further. -/
def joinLines (folded : Bool) (read : List Char) (breaks : Nat)
    (indented : Bool) : List (List Char) → List Char × Nat
  | [] => (read, breaks)
  | line :: lines =>
      if line = [] then joinLines folded read (breaks + 1) indented lines
      else
        let now := line.head?.any isSpace
        let between :=
          if breaks = 0 then []
          else if folded && !indented && !now && read ≠ [] then
            if breaks = 1 then [' '] else List.replicate (breaks - 1) '\n'
          else List.replicate breaks '\n'
        joinLines folded (line.reverse ++ between ++ read) 1 now lines

/-- A block of lines, from its mark on; `least` is the least column of what
belongs to the node around it. -/
def readBlock (least : Nat) (cursor : Cursor) : Except Fault (String × Cursor) := do
  match cursor.rest with
  | mark :: rest =>
      let (header, rest) ← readHeader { folded := mark = '>' } rest
      let lines := splitLines rest
      let indentation :=
        match header.indentation with
        | some more => least - 1 + more
        | none => detectIndentation (max least 1) lines
      let (texts, after) := blockLines indentation lines
      let (read, breaks) := joinLines header.folded [] 0 false texts
      let ended := !rest.isEmpty && (!after.isEmpty || rest.getLast? = some '\n')
      let breaks := if read.isEmpty then breaks else if ended then breaks else breaks - 1
      let kept :=
        match header.chomping with
        | .strip => 0
        | .clip => if read.isEmpty then 0 else min breaks 1
        | .keep => breaks
      let text := String.ofList (List.replicate kept '\n' ++ read).reverse
      return (text, { cursor with rest := joinRest after, column := 0 })
  | [] => throw .unexpectedCharacter
where
  /-- The lines of a text; a line end at its end starts no line. -/
  splitLines (text : List Char) : List (List Char) :=
    let lines := text.foldr
      (fun char lines =>
        if isBreak char then [] :: lines
        else
          match lines with
          | line :: lines => (char :: line) :: lines
          | [] => [[char]]) [[]]
    if lines.getLast? = some [] then lines.dropLast else lines
  joinRest : List (List Char) → List Char
    | [] => []
    | [line] => line
    | line :: lines => line ++ '\n' :: joinRest lines

end EdgeGateway.Yaml
