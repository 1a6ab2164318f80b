import EdgeGateway.Decimal.Shortest

/-!
# JSON values

Whole numbers that fit 64 bits, signed or not, are kept exactly; any other
number is a double.  The members of an object are kept in the order of the text
they were read from.  Where an object is a dictionary, `sortMembers` puts them
in the order of their names, and the last of several members of one name stays.
-/

namespace EdgeGateway

inductive JsonNumber where
  | whole (value : Int)
  | double (bits : UInt64)
  deriving Repr, DecidableEq

inductive Json where
  | null
  | bool (value : Bool)
  | number (value : JsonNumber)
  | string (text : String)
  | array (items : List Json)
  | object (members : List (String × Json))
  deriving Repr

namespace JsonNumber

def text : JsonNumber → String
  | whole value => Text.decimalInt value
  | double bits => Decimal.writeBits .json bits

end JsonNumber

namespace Json

def ofNat (value : Nat) : Json := number (.whole value)

def ofInt (value : Int) : Json := number (.whole value)

def ofStrings (texts : List String) : Json := array (texts.map string)

def ofOption (encode : α → Json) : Option α → Json
  | some value => encode value
  | none => null

/-- Puts a member into a list sorted by name, over one of the same name. -/
def insertMember (name : String) (value : α) :
    List (String × α) → List (String × α)
  | [] => [(name, value)]
  | (known, old) :: members =>
      if name = known then (name, value) :: members
      else if name < known then (name, value) :: (known, old) :: members
      else (known, old) :: insertMember name value members

def sortPairs (members : List (String × α)) : List (String × α) :=
  members.foldl (fun sorted (name, value) => insertMember name value sorted) []

mutual

/-- The same value with every object as a dictionary. -/
def sortMembers : Json → Json
  | array items => array (sortItems items)
  | object members => object (sortPairs (sortMemberValues members))
  | other => other

def sortItems : List Json → List Json
  | [] => []
  | item :: items => sortMembers item :: sortItems items

def sortMemberValues : List (String × Json) → List (String × Json)
  | [] => []
  | (name, value) :: members =>
      (name, sortMembers value) :: sortMemberValues members

end

/-- The member of that name, if the value is an object with one. -/
def member? (name : String) : Json → Option Json
  | object members =>
      (members.reverse.find? fun (known, _) => known = name).map Prod.snd
  | _ => none

/-- The object with one more member. -/
def withMember (document : Json) (name : String) (value : Json) : Json :=
  match document with
  | object members => object (members ++ [(name, value)])
  | other => other

end Json

end EdgeGateway
