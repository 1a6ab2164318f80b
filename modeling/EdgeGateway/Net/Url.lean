import EdgeGateway.Net.Address
import EdgeGateway.Net.InternationalName
import EdgeGateway.Net.Percent

/-!
# URLs

Of a target URL only the scheme and the host matter here.  Schemes of the web
need a host, take backslashes for slashes and any number of them before the
host; a host of theirs is a domain or an address.  Other schemes have a host
only after two slashes, and it may be empty.  Whoever checks a target takes the
reading as a parameter.
-/

namespace EdgeGateway.Net

inductive UrlError where
  | relativeWithoutBase
  | emptyHost
  | invalidNumber
  | invalidIpv4
  | invalidIpv6
  | invalidDomainCharacter
  | invalidInternationalName
  deriving Repr, DecidableEq

namespace UrlError

def message : UrlError → String
  | relativeWithoutBase => "relative URL without a base"
  | emptyHost => "empty host"
  | invalidNumber => "invalid port number"
  | invalidIpv4 => "invalid IPv4 address"
  | invalidIpv6 => "invalid IPv6 address"
  | invalidDomainCharacter => "invalid domain character"
  | invalidInternationalName => "invalid international domain name"

end UrlError

/-- `rest` is what follows the host and its number. -/
structure Url where
  scheme : String
  userinfo : Option String
  host : Option String
  number : Option Nat
  rest : String
  deriving Repr, DecidableEq

namespace Url

def isSchemeChar (char : Char) : Bool :=
  Text.isAsciiAlphanumeric char || char = '+' || char = '-' || char = '.'

/-- Drops what is not part of a URL: control characters and spaces at the ends,
tabs and line ends anywhere. -/
def clean (text : List Char) : List Char :=
  let isControl (char : Char) : Bool := char.toNat ≤ 0x20
  let trimmed := ((text.dropWhile isControl).reverse.dropWhile isControl).reverse
  trimmed.filter fun char => char ≠ '\t' && char ≠ '\n' && char ≠ '\r'

def isWebScheme (scheme : String) : Bool :=
  ["http", "https", "ws", "wss", "ftp"].contains scheme

def defaultNumber? (scheme : String) : Option Nat :=
  match scheme with
  | "http" | "ws" => some 80
  | "https" | "wss" => some 443
  | "ftp" => some 21
  | _ => none

def isForbiddenInHost (char : Char) : Bool :=
  "\x00\t\n\r #/:<>?@[\\]^|".toList.contains char

def isForbiddenInDomain (char : Char) : Bool :=
  isForbiddenInHost char || char.toNat < 0x20 || char = '%' || char.toNat = 0x7F

/-- One number of an address: octal after a zero, hexadecimal after `0x`. -/
def readAddressNumber? (digits : List Char) : Option Nat :=
  let inBase (base : Nat) (digits : List Char) : Option Nat :=
    digits.foldl (fun value char =>
      value.bind fun total =>
        match Unicode.hexDigit? char with
        | some digit => if digit < base then some (total * base + digit) else none
        | none => none) (some 0)
  match digits with
  | [] => none
  | '0' :: 'x' :: rest => inBase 16 rest
  | '0' :: 'X' :: rest => inBase 16 rest
  | '0' :: next :: rest => inBase 8 (next :: rest)
  | _ => inBase 10 digits

/-- The labels of a domain without an empty last one. -/
def labels (domain : List Char) : List (List Char) :=
  let parts := Text.splitAtEvery '.' domain
  if parts.length > 1 ∧ parts.getLast? = some [] then parts.dropLast else parts

/-- A domain whose last label is a number has to be an address. -/
def endsInNumber (domain : List Char) : Bool :=
  match (labels domain).getLast? with
  | none => false
  | some [] => false
  | some last =>
      last.all Text.isAsciiDigit ||
        (((last.take 2 = ['0', 'x']) || (last.take 2 = ['0', 'X'])) &&
          (readAddressNumber? last).isSome)

def readAddress? (domain : List Char) : Option (List Nat) := do
  let parts := labels domain
  if parts.length > 4 then none
  let numbers ← parts.mapM readAddressNumber?
  let front := numbers.dropLast
  let last ← numbers.getLast?
  if front.any (· > 255) then none
  if last ≥ Nat.pow 256 (5 - numbers.length) then none
  let value := front.zipIdx.foldr (fun (number, index) total =>
    number * Nat.pow 256 (3 - index) + total) last
  return [value / 16777216 % 256, value / 65536 % 256, value / 256 % 256,
    value % 256]

def readWebHost (text : List Char) : Except UrlError String :=
  match text with
  | '[' :: inner =>
      match inner.reverse with
      | ']' :: reversed =>
          match IpAddress.readSix? reversed.reverse with
          | some groups => .ok ("[" ++ (IpAddress.six groups).write ++ "]")
          | none => .error .invalidIpv6
      | _ => .error .invalidIpv6
  | _ =>
      let bytes := percentDecode text
      let decoded := Text.decodeUtf8 bytes
      if decoded.contains Text.replacementChar then
        .error .invalidInternationalName
      else
        let domain := decoded.map Text.lowerAsciiChar
        if domain.any isForbiddenInDomain then .error .invalidDomainCharacter
        else if !(Text.splitAtEvery '.' domain).all InternationalName.isLabel then
          .error .invalidInternationalName
        else if domain = [] then .error .emptyHost
        else if endsInNumber domain then
          match readAddress? domain with
          | some octets => .ok (IpAddress.four octets).write
          | none => .error .invalidIpv4
        else .ok (String.ofList domain)

def readOtherHost (text : List Char) : Except UrlError String :=
  match text with
  | '[' :: inner =>
      match inner.reverse with
      | ']' :: reversed =>
          match IpAddress.readSix? reversed.reverse with
          | some groups => .ok ("[" ++ (IpAddress.six groups).write ++ "]")
          | none => .error .invalidIpv6
      | _ => .error .invalidIpv6
  | _ =>
      if text.any isForbiddenInHost then .error .invalidDomainCharacter
      else .ok (String.ofList text)

/-- Cuts a host from its number at the first colon outside brackets. -/
def splitHost : Bool → List Char → List Char × Option (List Char)
  | _, [] => ([], none)
  | inside, char :: rest =>
      if char = ':' ∧ !inside then ([], some rest)
      else
        let (host, number) :=
          splitHost
            (if char = '[' then true else if char = ']' then false else inside)
            rest
        (char :: host, number)

def readNumber (scheme : String) (digits : List Char) :
    Except UrlError (Option Nat) :=
  if !(digits.all Text.isAsciiDigit) then .error .invalidNumber
  else if digits = [] then .ok none
  else
    let number := Text.digitsValue digits
    if number > Text.limit16 then .error .invalidNumber
    else if defaultNumber? scheme = some number then .ok none
    else .ok (some number)

/-- Cuts at the last at sign. -/
def splitUserinfo (text : List Char) : Option (List Char) × List Char :=
  match Text.splitAtFirst? '@' text.reverse with
  | some (host, user) => (some user.reverse, host.reverse)
  | none => (none, text)

def readAuthority (scheme : String) (web : Bool) (text : List Char) :
    Except UrlError Url := do
  let isEnd (char : Char) : Bool :=
    char = '/' || char = '?' || char = '#' || (web && char = '\\')
  let authority := text.takeWhile fun char => !isEnd char
  let rest := text.drop authority.length
  let (userinfo, hostAndNumber) := splitUserinfo authority
  if userinfo.isSome ∧ hostAndNumber = [] ∧ (rest ≠ [] ∨ web) then throw .emptyHost
  let (hostText, numberText) := splitHost false hostAndNumber
  if hostText = [] ∧ (web ∨ numberText.isSome) then throw .emptyHost
  let host ← if web then readWebHost hostText else readOtherHost hostText
  let number ←
    match numberText with
    | some digits => readNumber scheme digits
    | none => pure none
  return ⟨scheme, userinfo.map String.ofList, some host, number, String.ofList rest⟩

def read (text : String) : Except UrlError Url :=
  let chars := clean text.toList
  let scheme := chars.takeWhile isSchemeChar
  let after := chars.drop scheme.length
  match scheme, after with
  | first :: _, ':' :: rest =>
      if !Text.isAsciiLetter first then .error .relativeWithoutBase
      else
        let name := String.ofList (scheme.map Text.lowerAsciiChar)
        if isWebScheme name then
          readAuthority name true (rest.dropWhile fun char =>
            char = '/' || char = '\\')
        else if name = "file" then
          .ok ⟨name, none, none, none, String.ofList rest⟩
        else
          match rest with
          | '/' :: '/' :: authority => readAuthority name false authority
          | _ => .ok ⟨name, none, none, none, String.ofList rest⟩
  | _, _ => .error .relativeWithoutBase

end Url

/-- A library that reads URLs. -/
class UrlParser where
  read : String → Except UrlError Url

instance : UrlParser := ⟨Url.read⟩

end EdgeGateway.Net
