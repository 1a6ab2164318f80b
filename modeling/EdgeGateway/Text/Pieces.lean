/-!
# Cutting and gluing text

Lists of characters are cut at a separator character, glued with one, and
searched for a fixed piece.  `splitAtEvery` always yields one piece more than
there are separators, so gluing the pieces restores the text.
-/

namespace EdgeGateway.Text

/-- Cuts at every occurrence of the separator; the empty text is one empty piece. -/
def splitAtEvery (separator : Char) : List Char → List (List Char)
  | [] => [[]]
  | char :: rest =>
      if char = separator then [] :: splitAtEvery separator rest
      else
        match splitAtEvery separator rest with
        | [] => [[char]]
        | piece :: pieces => (char :: piece) :: pieces

/-- Cuts at the first occurrence of the separator, which is dropped. -/
def splitAtFirst? (separator : Char) :
    List Char → Option (List Char × List Char)
  | [] => none
  | char :: rest =>
      if char = separator then some ([], rest)
      else
        (splitAtFirst? separator rest).map fun (before, after) =>
          (char :: before, after)

def glue (separator : List Char) : List (List Char) → List Char
  | [] => []
  | [piece] => piece
  | piece :: pieces => piece ++ separator ++ glue separator pieces

/-- The text after a leading `piece`, if it starts with it. -/
def dropPiece? : List Char → List Char → Option (List Char)
  | [], text => some text
  | _ :: _, [] => none
  | expected :: piece, char :: text =>
      if expected = char then dropPiece? piece text else none

/-- Replaces the occurrences of a non-empty piece from left to right; what was
put in is not searched again.  `skip` counts the characters of an occurrence
that are still to be passed over. -/
def replacePieceFrom (piece replacement : List Char) :
    Nat → List Char → List Char
  | _, [] => []
  | skip + 1, _ :: text => replacePieceFrom piece replacement skip text
  | 0, char :: text =>
      match dropPiece? piece (char :: text) with
      | some _ =>
          replacement ++
            replacePieceFrom piece replacement (piece.length - 1) text
      | none => char :: replacePieceFrom piece replacement 0 text

def replacePiece (piece replacement text : List Char) : List Char :=
  if piece = [] then text else replacePieceFrom piece replacement 0 text

def split (separator : Char) (text : String) : List String :=
  (splitAtEvery separator text.toList).map String.ofList

def splitFirst? (separator : Char) (text : String) :
    Option (String × String) :=
  (splitAtFirst? separator text.toList).map fun (before, after) =>
    (String.ofList before, String.ofList after)

def join (separator : String) (pieces : List String) : String :=
  String.ofList (glue separator.toList (pieces.map String.toList))

def replace (piece replacement text : String) : String :=
  String.ofList (replacePiece piece.toList replacement.toList text.toList)

def startsWith (text piece : String) : Bool :=
  (dropPiece? piece.toList text.toList).isSome

def stripPrefix? (piece text : String) : Option String :=
  (dropPiece? piece.toList text.toList).map String.ofList

end EdgeGateway.Text
