import EdgeGateway.Http.Headers
import EdgeGateway.Text.Pieces

/-!
# Media types

A type, a subtype and possibly a suffix after a plus sign; parameters follow
after semicolons.  The names are compared without case.
-/

namespace EdgeGateway.Http

structure MediaType where
  type : List Char
  subtype : List Char
  suffix : Option (List Char)
  deriving Repr, DecidableEq

namespace MediaType

/-- The text after a quoted value; none if the quote is not closed. -/
def afterQuoted? : List Char → Option (List Char)
  | [] => none
  | '"' :: rest => some rest
  | _ :: rest => afterQuoted? rest

/-- Whether a text is a list of parameters, each after a semicolon and spaces. -/
def areParameters : Nat → List Char → Bool
  | 0, _ => false
  | _, [] => true
  | fuel + 1, char :: rest =>
      if char = ' ' ∨ char = ';' then areParameters fuel rest
      else
        let text := char :: rest
        let name := text.takeWhile isTokenChar
        match text.drop name.length with
        | '=' :: '"' :: value =>
            match afterQuoted? value with
            | some [] => true
            | some (';' :: rest) => areParameters fuel rest
            | _ => false
        | '=' :: value =>
            let word := value.takeWhile isTokenChar
            match word, value.drop word.length with
            | [], _ => false
            | _, [] => true
            | _, ';' :: rest => areParameters fuel rest
            | _, _ => false
        | _ => false

/-- Cuts at the last plus sign. -/
def splitSuffix (name : List Char) : List Char × Option (List Char) :=
  match Text.splitAtFirst? '+' name.reverse with
  | some (suffix, front) =>
      if front = [] then (name, none) else (front.reverse, some suffix.reverse)
  | none => (name, none)

def read? (text : String) : Option MediaType := do
  let chars := text.toList.map Text.lowerAsciiChar
  let type := chars.takeWhile isTokenChar
  let name ← Text.dropPiece? ['/'] (chars.drop type.length)
  let subtype := name.takeWhile isTokenChar
  let rest := name.drop subtype.length
  if type = [] ∨ subtype = [] then none
  else
    let parameters := rest.dropWhile (· = ' ')
    if rest = [] ∨
        (parameters.head? = some ';' ∧
          areParameters (parameters.length + 1) parameters) then
      let (subtype, suffix) := splitSuffix subtype
      some ⟨type, subtype, suffix⟩
    else none

def isJson (mediaType : MediaType) : Bool :=
  mediaType.type = "application".toList &&
    (mediaType.subtype = "json".toList || mediaType.suffix = some "json".toList)

end MediaType

end EdgeGateway.Http
