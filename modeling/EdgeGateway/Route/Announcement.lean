import EdgeGateway.Http.Message
import EdgeGateway.Net.Url

/-!
# Announcements

How route changes are announced: over a connection to a server of messages, which
is asked for those on one topic.  A command is a list of words, and so is every
message; a value says its length before its bytes.
-/

namespace EdgeGateway.Route

/-- A server of messages, and what it is told when a connection begins. -/
structure Announcer where
  host : String
  number : Nat
  commands : List (List String)
  deriving Repr, DecidableEq

namespace Announcer

/-- The words by which a user makes itself known. -/
def login (userinfo : String) : List (List String) :=
  match Text.splitFirst? ':' userinfo with
  | some ("", password) => [["AUTH", password]]
  | some (user, password) => [["AUTH", user, password]]
  | none => []

def database (path : String) : List (List String) :=
  match (Text.stripPrefix? "/" path).getD "" with
  | "" => []
  | "0" => []
  | database => [["SELECT", database]]

def ofUrl (url topic : String) : Except String Announcer :=
  match Net.Url.read url with
  | .error error => .error error.message
  | .ok url =>
      match url.scheme, url.host with
      | "redis", some host =>
          .ok {
            host := host
            number := url.number.getD 6379
            commands :=
              (url.userinfo.map login).getD [] ++ database url.rest ++
                [["SUBSCRIBE", topic]] }
      | _, _ => .error "the server of messages has no address"

end Announcer

/-- A command as it is sent. -/
def commandText (words : List String) : String :=
  "*" ++ Text.decimal words.length ++ "\r\n" ++ String.join (words.map fun word =>
    "$" ++ Text.decimal (Text.byteLength word) ++ "\r\n" ++ word ++ "\r\n")

/-- What a server of messages sends. -/
inductive Announcement where
  | word (text : String)
  | refusal (text : String)
  | list (items : List Announcement)
  deriving Repr

namespace Announcement

mutual

/-- The value at a place and the place behind it. -/
def read? (bytes : ByteArray) : Nat → Nat → Option (Announcement × Nat)
  | 0, _ => none
  | fuel + 1, place => do
      let next ← Http.lineEnd? bytes (bytes.size - place) place
      let line := Http.lineText bytes place next
      let text := String.ofList (line.toList.drop 1)
      let count := (Text.readNatural Text.limit64 text).toOption.getD 0
      match line.toList.head? with
      | some '-' => return (refusal text, next)
      | some '$' =>
          if bytes.size < next + count + 2 then none
          return (word (Http.lineText bytes next (next + count + 2)), next + count + 2)
      | some '*' =>
          let (items, finish) ← readItems? bytes fuel count next
          return (list items, finish)
      | _ => return (word text, next)

def readItems? (bytes : ByteArray) :
    Nat → Nat → Nat → Option (List Announcement × Nat)
  | _, 0, place => some ([], place)
  | 0, _ + 1, _ => none
  | fuel + 1, count + 1, place => do
      let (item, next) ← read? bytes fuel place
      let (items, finish) ← readItems? bytes fuel count next
      return (item :: items, finish)

end

/-- Whether this is a message on the topic that was asked for. -/
def isMessage : Announcement → Bool
  | list (word "message" :: _) => true
  | _ => false

end Announcement

end EdgeGateway.Route
