import EdgeGateway.Text.Pieces
import EdgeGateway.Text.Utf8
import EdgeGateway.Unicode.CodeRanges

/-!
# Percent-encoding and query strings

A percent sign with two hexadecimal digits stands for a byte; any other percent
sign stands for itself.  A query string is a list of `name=value` pairs between
ampersands in which a plus sign is a space.
-/

namespace EdgeGateway.Net

/-- Decodes bytes; `skip` counts digits that have been taken already. -/
def percentDecodeFrom : Nat → List Nat → List Nat
  | _, [] => []
  | skip + 1, _ :: rest => percentDecodeFrom skip rest
  | 0, byte :: rest =>
      if byte = 0x25 then
        match rest with
        | high :: low :: _ =>
            match Unicode.hexDigit? (Char.ofNat high),
                Unicode.hexDigit? (Char.ofNat low) with
            | some high, some low => (high * 16 + low) :: percentDecodeFrom 2 rest
            | _, _ => byte :: percentDecodeFrom 0 rest
        | _ => byte :: percentDecodeFrom 0 rest
      else byte :: percentDecodeFrom 0 rest

def percentDecode (chars : List Char) : List Nat :=
  percentDecodeFrom 0 (Text.encodeUtf8 chars)

def decodeFormText (chars : List Char) : String :=
  let spaced := chars.map fun char => if char = '+' then ' ' else char
  String.ofList (Text.decodeUtf8 (percentDecode spaced))

/-- The pairs of a query string in order; a piece without an equals sign is a
name with an empty value, and empty pieces are no pairs. -/
def queryPairs (query : String) : List (String × String) :=
  (Text.splitAtEvery '&' query.toList).filterMap fun piece =>
    if piece = [] then none
    else
      match Text.splitAtFirst? '=' piece with
      | some (name, value) => some (decodeFormText name, decodeFormText value)
      | none => some (decodeFormText piece, "")

end EdgeGateway.Net
