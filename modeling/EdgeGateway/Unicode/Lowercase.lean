import EdgeGateway.Text.Ascii
import EdgeGateway.Unicode.CodeRanges
import EdgeGateway.Unicode.LowercaseTable

/-!
# Lower case

The lower-case form of a text, character by character, with the two cases in
which Unicode looks further: the dotted capital I becomes two characters, and a
capital sigma at the end of a word takes its final form.  A sigma is final when
a cased character stands before it and none after it, with case-ignorable
characters passed over on both sides.
-/

namespace EdgeGateway.Unicode

def lowercaseTable : List CaseRun := readRuns lowercaseRuns

def casedTable : CodeRanges := readRanges casedRanges

def caseIgnorableTable : CodeRanges := readRanges caseIgnorableRanges

def lowercaseCode (code : Nat) : Nat :=
  (lowercaseTable.findSome? fun run => run.image? code).getD code

def lowercaseChar (char : Char) : List Char :=
  if char.toNat < 0x80 then [Text.lowerAsciiChar char]
  else if char.toNat = 0x130 then ['i', Char.ofNat 0x307]
  else [Char.ofNat (lowercaseCode char.toNat)]

/-- Whether the first character that is not case-ignorable is cased. -/
def meetsCased (chars : List Char) : Bool :=
  match chars.dropWhile fun char => caseIgnorableTable.containsChar char with
  | [] => false
  | char :: _ => casedTable.containsChar char

/-- Lowers `rest`; `before` holds the characters already passed, nearest first. -/
def lowercaseFrom (before : List Char) : List Char → List Char
  | [] => []
  | char :: rest =>
      let lowered :=
        if char.toNat = 0x3A3 then
          if meetsCased before && !meetsCased rest then [Char.ofNat 0x3C2]
          else [Char.ofNat 0x3C3]
        else lowercaseChar char
      lowered ++ lowercaseFrom (char :: before) rest

def lowercase (text : String) : String :=
  String.ofList (lowercaseFrom [] text.toList)

end EdgeGateway.Unicode
