import EdgeGateway.Document.Basic
import EdgeGateway.Text.Ascii

/-!
# Places in a document

Where reading stands in a text, and the nodes that have been given a name so
far.  The column counts from zero; it is exact as long as nothing but blanks and
the marks of sequences stands before the place in its line, and positive
otherwise.
-/

namespace EdgeGateway.Yaml

inductive Fault where
  | controlCharacter
  | tabIndentation
  | unclosedQuote
  | invalidEscape
  | invalidHeader
  | unclosedCollection
  | unexpectedCharacter
  | wrongIndentation
  | unknownAlias
  | unsupportedKey
  | severalDocuments
  | tooDeep
  deriving Repr, DecidableEq

namespace Fault

def message : Fault → String
  | controlCharacter => "control characters are not allowed"
  | tabIndentation => "a tab is no indentation"
  | unclosedQuote => "found unexpected end of stream in a quoted scalar"
  | invalidEscape => "found unknown escape character"
  | invalidHeader => "did not find expected comment or line break"
  | unclosedCollection => "did not find the end of a collection"
  | unexpectedCharacter => "found character that cannot start any token"
  | wrongIndentation => "did not find expected indentation"
  | unknownAlias => "unknown anchor"
  | unsupportedKey => "keys must be scalars"
  | severalDocuments => "more than one document"
  | tooDeep => "recursion limit exceeded"

end Fault

structure Cursor where
  rest : List Char
  column : Nat := 0
  anchors : List (String × Document) := []
  deriving Repr

def isBreak (char : Char) : Bool := char = '\n'

def isSpace (char : Char) : Bool := char = ' ' || char = '\t'

/-- Whether a text is at its end, at the end of a line, or at a blank. -/
def atBlank : List Char → Bool
  | [] => true
  | char :: _ => isSpace char || isBreak char

/-- Whether a line is at its end. -/
def atLineEnd : List Char → Bool
  | [] => true
  | char :: _ => isBreak char

def isFlowMark (char : Char) : Bool :=
  char = ',' || char = '[' || char = ']' || char = '{' || char = '}'

/-- Characters that can start no plain scalar. -/
def isIndicator (char : Char) : Bool :=
  "-?:,[]{}#&*!|>'\"%@`".toList.contains char

namespace Cursor

/-- A place further on in the same line. -/
def moveTo (cursor : Cursor) (rest : List Char) : Cursor :=
  { cursor with rest := rest, column := cursor.column + 1 }

/-- Over blanks within a line. -/
def skipSpaces (cursor : Cursor) : Cursor :=
  let spaces := (cursor.rest.takeWhile isSpace).length
  { cursor with rest := cursor.rest.drop spaces, column := cursor.column + spaces }

/-- Whether a document starts or ends here. -/
def atMarker (cursor : Cursor) : Bool :=
  cursor.column = 0 &&
    match cursor.rest with
    | '-' :: '-' :: '-' :: rest => atBlank rest
    | '.' :: '.' :: '.' :: rest => atBlank rest
    | _ => false

/-- Whether a block ends here for good. -/
def atEnd (cursor : Cursor) : Bool := cursor.rest.isEmpty || cursor.atMarker

def anchor? (cursor : Cursor) (name : String) : Option Document :=
  (cursor.anchors.find? fun (known, _) => known = name).map Prod.snd

def addAnchor (cursor : Cursor) (name : Option String) (node : Document) :
    Cursor :=
  match name with
  | some name => { cursor with anchors := (name, node) :: cursor.anchors }
  | none => cursor

end Cursor

/-- Blanks, comments and line ends from some column on.  A tab before the
content of a line is a fault where indentation counts. -/
def contentFrom (indented : Bool) (anchors : List (String × Document))
    (column : Nat) (fresh tab comment : Bool) : List Char → Except Fault Cursor
  | [] => .ok ⟨[], column, anchors⟩
  | char :: rest =>
      if isBreak char then
        contentFrom indented anchors 0 true false false rest
      else if comment then
        contentFrom indented anchors (column + 1) fresh tab true rest
      else if char = ' ' then
        contentFrom indented anchors (column + 1) fresh tab false rest
      else if char = '\t' then
        contentFrom indented anchors (column + 1) fresh (tab || fresh) false rest
      else if char = '#' then
        contentFrom indented anchors (column + 1) fresh tab true rest
      else if indented && tab then .error .tabIndentation
      else .ok ⟨char :: rest, column, anchors⟩

namespace Cursor

/-- The next content of a block. -/
def toContent (cursor : Cursor) : Except Fault Cursor :=
  contentFrom true cursor.anchors cursor.column (cursor.column = 0) false false
    cursor.rest

/-- The next content between brackets, where indentation does not count. -/
def toFlowContent (cursor : Cursor) : Except Fault Cursor := do
  let content ← contentFrom false cursor.anchors cursor.column false false false
    cursor.rest
  if content.rest = [] then throw .unclosedCollection
  return content

end Cursor

end EdgeGateway.Yaml
