import EdgeGateway.Yaml.Scalar

/-!
# Nodes

Reads a document of nested mappings and sequences, told apart by indentation or
by brackets.  A scalar without quotes is a plain one, whose meaning is settled
by whoever decodes it; every other scalar is a text.  The fuel of the reading
functions is the length of the text, since every step goes over a character.
-/

namespace EdgeGateway.Yaml

/-- The node where nothing is written. -/
def emptyNode : Document := .plain ""

namespace Cursor

/-- Nothing but blanks and a comment may follow in the line. -/
def endLine (cursor : Cursor) : Except Fault Cursor :=
  let after := cursor.skipSpaces
  match after.rest with
  | [] => .ok after
  | char :: rest =>
      if isBreak char then .ok after
      else if char = '#' then
        .ok (after.moveTo (rest.dropWhile fun c => !isBreak c))
      else .error .unexpectedCharacter

/-- Whether the line holds nothing more, comments apart. -/
def lineIsOver (cursor : Cursor) : Bool :=
  atLineEnd cursor.rest || cursor.rest.head? = some '#'

/-- The place after a mark of one character and the blanks behind it. -/
def afterMark (cursor : Cursor) : Cursor :=
  { cursor with
    rest := cursor.rest.drop 1
    column := cursor.column + 1 }.skipSpaces

/-- Whether a mark stands here with a blank behind it. -/
def startsWithMark (mark : Char) (cursor : Cursor) : Bool :=
  match cursor.rest with
  | char :: rest => char = mark && atBlank rest
  | [] => false

end Cursor

/-! ## Names and tags of nodes -/

structure Properties where
  anchor : Option String := none
  tag : Option String := none

def isNameChar (char : Char) : Bool :=
  Text.isAsciiAlphanumeric char || char = '-' || char = '_'

def isTagChar (char : Char) : Bool :=
  !isSpace char && !isBreak char && !isFlowMark char

/-- One property and what follows it, if one stands here. -/
def readProperty? (properties : Properties) (text : List Char) :
    Option (Properties × List Char) :=
  match text with
  | '&' :: rest =>
      let name := rest.takeWhile isNameChar
      some ({ properties with anchor := some (String.ofList name) },
        rest.drop name.length)
  | '!' :: rest =>
      let tag := rest.takeWhile isTagChar
      some ({ properties with tag := some (String.ofList tag) },
        rest.drop tag.length)
  | _ => none

/-- At most one anchor and one tag, in either order. -/
def readProperties (text : List Char) : Properties × List Char :=
  match readProperty? {} text with
  | none => ({}, text)
  | some (properties, rest) =>
      match readProperty? properties (rest.dropWhile isSpace) with
      | none => (properties, rest)
      | some found => found

/-- A tag that stands for text makes a text of a plain scalar. -/
def Properties.apply (properties : Properties) (node : Document) : Document :=
  match properties.tag, node with
  | some tag, .plain value =>
      if tag = "!str" ∨ tag = "" ∨ tag = "<tag:yaml.org,2002:str>" then .text value
      else .plain value
  | _, node => node

def readAlias (cursor : Cursor) : Except Fault (Document × Cursor) :=
  let rest := cursor.rest.drop 1
  let name := rest.takeWhile isNameChar
  match cursor.anchor? (String.ofList name) with
  | some node => .ok (node, cursor.moveTo (rest.drop name.length))
  | none => .error .unknownAlias

/-! ## Keys -/

def keyText : Document → Except Fault String
  | .plain value => .ok value
  | .text value => .ok value
  | _ => .error .unsupportedKey

/-- A scalar within the line, and what follows it. -/
def lineScalar? (text : List Char) : Option (Document × List Char) :=
  let isQuoted := text.head? = some '"' || text.head? = some '\''
  if isQuoted then
    let line := text.takeWhile fun char => !isBreak char
    match readQuoted { rest := line } with
    | .ok (value, after) =>
        some (.text value, text.drop (line.length - after.rest.length))
    | .error _ => none
  else if startsPlain false text then
    let (read, rest) := plainLine false [] [] text
    some (.plain (String.ofList read.reverse), rest)
  else none

/-- A key and the place after its colon, if a key stands here. -/
def implicitKey? (cursor : Cursor) : Option (Document × Cursor) := do
  let (_, text) := readProperties cursor.rest
  let (key, rest) ← lineScalar? (text.dropWhile isSpace)
  match rest.dropWhile isSpace with
  | ':' :: rest => if atBlank rest then some (key, cursor.moveTo rest) else none
  | _ => none

/-! ## Collections between brackets -/

mutual

def readFlow : Nat → Cursor → Except Fault (Document × Cursor)
  | 0, _ => .error .tooDeep
  | fuel + 1, cursor =>
      match cursor.rest with
      | [] => .error .unclosedCollection
      | char :: rest =>
          if char = '[' then do
            let (items, cursor) ← readItems fuel (cursor.moveTo rest)
            return (.sequence items, cursor)
          else if char = '{' then do
            let (members, cursor) ← readMembers fuel (cursor.moveTo rest)
            return (.mapping members, cursor)
          else if char = '"' ∨ char = '\'' then do
            let (value, cursor) ← readQuoted cursor
            return (.text value, cursor)
          else if char = '*' then readAlias cursor
          else if char = '&' ∨ char = '!' then do
            let (properties, rest) := readProperties (char :: rest)
            let content ← (cursor.moveTo rest).toFlowContent
            let (node, cursor) ←
              if content.rest.head?.any fun c => c = ',' || c = ']' || c = '}' then
                pure (emptyNode, content)
              else readFlow fuel content
            let node := properties.apply node
            return (node, cursor.addAnchor properties.anchor node)
          else if startsPlain true (char :: rest) then
            let (value, after) := readPlain true 0 cursor
            if after.startsWithMark ':' || after.rest.head? ≠ some ':' then
              .ok (.plain value, after)
            else .error .unexpectedCharacter
          else .error .unexpectedCharacter

/-- The items after an opening bracket or a comma. -/
def readItems : Nat → Cursor → Except Fault (List Document × Cursor)
  | 0, _ => .error .tooDeep
  | fuel + 1, cursor => do
      let content ← cursor.toFlowContent
      match content.rest with
      | ']' :: rest => return ([], content.moveTo rest)
      | _ =>
          let (item, cursor) ← readFlow fuel content
          let (value, cursor) ← readFlowValue fuel cursor
          let item ←
            match value with
            | some value => do pure (Document.mapping [(← keyText item, value)])
            | none => pure item
          match cursor.rest with
          | ']' :: rest => return ([item], cursor.moveTo rest)
          | ',' :: rest =>
              let (items, cursor) ← readItems fuel (cursor.moveTo rest)
              return (item :: items, cursor)
          | _ => throw .unclosedCollection

/-- The members after an opening brace or a comma. -/
def readMembers : Nat → Cursor →
    Except Fault (List (String × Document) × Cursor)
  | 0, _ => .error .tooDeep
  | fuel + 1, cursor => do
      let content ← cursor.toFlowContent
      match content.rest with
      | '}' :: rest => return ([], content.moveTo rest)
      | _ =>
          let content ←
            if content.startsWithMark '?' then content.afterMark.toFlowContent
            else pure content
          let (key, cursor) ← readFlow fuel content
          let (value, cursor) ← readFlowValue fuel cursor
          let member := (← keyText key, value.getD emptyNode)
          match cursor.rest with
          | '}' :: rest => return ([member], cursor.moveTo rest)
          | ',' :: rest =>
              let (members, cursor) ← readMembers fuel (cursor.moveTo rest)
              return (member :: members, cursor)
          | _ => throw .unclosedCollection

/-- The value after a colon, if there is one, up to the next content. -/
def readFlowValue : Nat → Cursor → Except Fault (Option Document × Cursor)
  | 0, _ => .error .tooDeep
  | fuel + 1, cursor => do
      let content ← cursor.toFlowContent
      match content.rest with
      | ':' :: rest =>
          let content ← (content.moveTo rest).toFlowContent
          if content.rest.head?.any fun c => c = ',' || c = ']' || c = '}' then
            return (some emptyNode, content)
          let (value, cursor) ← readFlow fuel content
          return (some value, ← cursor.toFlowContent)
      | _ => return (none, content)

end

/-! ## Collections by indentation -/

/-- A scalar, an alias or a bracketed collection; nothing follows it in its
line. -/
def readInline (fuel least : Nat) (cursor : Cursor) :
    Except Fault (Document × Cursor) := do
  match cursor.rest with
  | [] => throw .unexpectedCharacter
  | char :: rest =>
      if char = '|' ∨ char = '>' then
        let (value, cursor) ← readBlock least cursor
        return (.text value, cursor)
      let (node, cursor) ←
        if char = '[' ∨ char = '{' then readFlow fuel cursor
        else if char = '"' ∨ char = '\'' then do
          let (value, cursor) ← readQuoted cursor
          pure (Document.text value, cursor)
        else if char = '*' then readAlias cursor
        else if startsPlain false (char :: rest) then
          let (value, cursor) := readPlain false least cursor
          pure (Document.plain value, cursor)
        else throw .unexpectedCharacter
      return (node, ← cursor.endLine)

mutual

/-- A node whose lines start at the column `least` or further right.  A mapping
or a sequence can start only where `fresh` says that nothing stands before it
but marks of sequences. -/
def readNode : Nat → Nat → Bool → Cursor → Except Fault (Document × Cursor)
  | 0, _, _, _ => .error .tooDeep
  | fuel + 1, least, fresh, cursor => do
      if fresh && ((implicitKey? cursor).isSome || cursor.startsWithMark '?') then
        let (members, cursor) ← readMapping fuel cursor.column cursor
        return (.mapping members, cursor)
      else if cursor.startsWithMark '-' then
        if fresh then
          let (items, cursor) ← readSequence fuel cursor.column cursor
          return (.sequence items, cursor)
        else throw .unexpectedCharacter
      else
        match readProperty? {} cursor.rest with
        | none => readInline fuel least cursor
        | some _ =>
            let (properties, rest) := readProperties cursor.rest
            let after := (cursor.moveTo rest).skipSpaces
            let (node, cursor) ←
              if after.lineIsOver then do
                let content ← after.toContent
                if content.atEnd ∨ content.column < least then
                  pure (emptyNode, content)
                else readNode fuel least true content
              else readNode fuel least false after
            let node := properties.apply node
            return (node, cursor.addAnchor properties.anchor node)

/-- The members of a mapping at a column, from a key on. -/
def readMapping : Nat → Nat → Cursor →
    Except Fault (List (String × Document) × Cursor)
  | 0, _, _ => .error .tooDeep
  | fuel + 1, column, cursor => do
      let (key, after) ←
        if cursor.startsWithMark '?' then do
          let (key, after) ← readNode fuel (column + 1) true cursor.afterMark
          let content ← after.toContent
          if content.column = column && content.startsWithMark ':' then
            pure (key, content.afterMark)
          else throw .unsupportedKey
        else
          match implicitKey? cursor with
          | some found => pure found
          | none => throw .unexpectedCharacter
      let (value, after) ← readValue fuel column after
      let member := (← keyText key, value)
      let content ← after.toContent
      if content.atEnd ∨ content.column < column then return ([member], content)
      else if column < content.column then throw .wrongIndentation
      else
        let (members, cursor) ← readMapping fuel column content
        return (member :: members, cursor)

/-- The value after a colon in a mapping at a column. -/
def readValue : Nat → Nat → Cursor → Except Fault (Document × Cursor)
  | 0, _, _ => .error .tooDeep
  | fuel + 1, column, cursor => do
      let after := cursor.skipSpaces
      if after.lineIsOver then
        let content ← after.toContent
        if content.atEnd then return (emptyNode, content)
        else if column < content.column then readNode fuel (column + 1) true content
        else if content.column = column && content.startsWithMark '-' then
          let (items, cursor) ← readSequence fuel column content
          return (.sequence items, cursor)
        else return (emptyNode, content)
      else readNode fuel (column + 1) false after

/-- The items of a sequence at a column, from a mark on. -/
def readSequence : Nat → Nat → Cursor →
    Except Fault (List Document × Cursor)
  | 0, _, _ => .error .tooDeep
  | fuel + 1, column, cursor => do
      let after := cursor.afterMark
      let (item, after) ←
        if after.lineIsOver then do
          let content ← after.toContent
          if content.atEnd ∨ content.column ≤ column then
            pure (emptyNode, content)
          else readNode fuel (column + 1) true content
        else readNode fuel (column + 1) true after
      let content ← after.toContent
      if content.atEnd ∨ content.column < column then return ([item], content)
      else if column < content.column then throw .wrongIndentation
      else if content.startsWithMark '-' then
        let (items, cursor) ← readSequence fuel column content
        return (item :: items, cursor)
      else return ([item], content)

end

/-! ## Documents -/

/-- Characters that may stand in a document. -/
def isPrintable (char : Char) : Bool :=
  let code := char.toNat
  code = 0x09 || code = 0x0A || code = 0x0D || (0x20 ≤ code && code ≤ 0x7E) ||
    code = 0x85 || (0xA0 ≤ code && code ≤ 0xD7FF) ||
    (0xE000 ≤ code && code ≤ 0xFFFD && code ≠ 0xFEFF) || 0x10000 ≤ code

/-- Every line end as the same character. -/
def unifyBreaks : List Char → List Char
  | [] => []
  | '\r' :: '\n' :: rest => '\n' :: unifyBreaks rest
  | char :: rest =>
      (if char = '\r' ∨ char.toNat = 0x85 then '\n' else char) :: unifyBreaks rest

/-- Over the directives before a document. -/
def skipDirectives : Nat → Cursor → Except Fault Cursor
  | 0, cursor => .ok cursor
  | fuel + 1, cursor =>
      if cursor.column = 0 && cursor.rest.head? = some '%' then do
        let rest := cursor.rest.dropWhile fun char => !isBreak char
        skipDirectives fuel (← { cursor with rest := rest }.toContent)
      else .ok cursor

/-- The one node of a document, from its first content on. -/
def readRoot (fuel : Nat) (cursor : Cursor) : Except Fault (Document × Cursor) := do
  if cursor.atMarker && cursor.rest.head? = some '-' then
    let after := { cursor with rest := cursor.rest.drop 3, column := 3 }.skipSpaces
    if after.lineIsOver then
      let content ← after.toContent
      if content.atEnd then return (emptyNode, content)
      else readNode fuel 0 true content
    else readNode fuel 0 false after
  else readNode fuel 0 true cursor

/-- Nothing may follow a document but the mark of its end. -/
def endDocument (cursor : Cursor) : Except Fault Unit := do
  let content ← cursor.toContent
  if content.rest = [] then return ()
  else if content.atMarker && content.rest.head? = some '.' then
    let after ← { content with rest := content.rest.drop 3, column := 3 }.toContent
    if after.rest = [] then return () else throw .severalDocuments
  else if content.atMarker then throw .severalDocuments
  else throw .unexpectedCharacter

def read (text : String) : Except Fault Document := do
  let chars :=
    match text.toList with
    | first :: rest => if first.toNat = 0xFEFF then rest else first :: rest
    | [] => []
  if !chars.all isPrintable then throw .controlCharacter
  let chars := unifyBreaks chars
  let start ← { rest := chars : Cursor }.toContent
  let cursor ← skipDirectives chars.length start
  if cursor.rest = [] then return .missing
  let (node, cursor) ← readRoot (4 * chars.length + 8) cursor
  endDocument cursor
  return node

end EdgeGateway.Yaml
