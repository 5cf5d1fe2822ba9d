import FeetInches.Fault
import FeetInches.Numeral.Integer
import FeetInches.Outer.HostName
/-!
The target of a request, and where it leads. A target may be a whole address: its scheme and
authority say how and where to ask, its query and fragment are dropped. The path is read as a target
once more, so a second scheme or authority at its start is dropped; a third one is checked, but
stays. All this is the client's and the server's part, for which it stands in; nothing is proved
about it.
-/

namespace FeetInches.Api

inductive RequestFault where
  | misplacedBracket
  | notAddress (text : Text)
  | shortAddressInBrackets
  | futureAddress
  | hiddenDelimiter (authority : Text)
  | hostName (fault : HostNameFault)
  | hostNumber (fault : Fault)
  | notHostNumber (text : Text)
  | hostNumberTooLarge
  | headerLineEnd
  | surrogates (text : Text)
  deriving DecidableEq

inductive RequestFaultNature where
  | badValue
  | badName
  | notEncodable
  deriving DecidableEq, Repr

namespace RequestFault

def surrogatesText (text : Text) : String :=
  match text.firstSurrogates with
  | (place, [one]) => " " ++ Text.quoted [one] ++ " in position " ++ Decimal.natText place
  | (place, row) =>
    "s in position " ++ Decimal.natText place ++ "-" ++ Decimal.natText (place + row.length - 1)

def message : RequestFault → Text
  | .misplacedBracket => "Invalid IPv6 URL"
  | .notAddress text => Text.quoted text ++ " does not appear to be an IPv4 or IPv6 address"
  | .shortAddressInBrackets => "An IPv4 address cannot be in brackets"
  | .futureAddress => "IPvFuture address is invalid"
  | .hiddenDelimiter authority =>
    "netloc '" ++ authority ++ "' contains invalid characters under NFKC normalization"
  | .hostName fault =>
    "encoding with 'idna' codec failed (UnicodeError: " ++ fault.message ++ ")"
  | .hostNumber fault => fault.message
  | .notHostNumber text => "Port could not be cast to integer value as " ++ Text.quoted text
  | .hostNumberTooLarge => "Port out of range 0-65535"
  | .headerLineEnd => "Header values must not contain newline characters."
  | .surrogates text =>
    "'utf-8' codec can't encode character" ++ surrogatesText text ++ ": surrogates not allowed"

def nature : RequestFault → RequestFaultNature
  | .hostName _ => .badName
  | .surrogates _ => .notEncodable
  | _ => .badValue

end RequestFault

end FeetInches.Api

namespace FeetInches.Api.Address

def isByte (cs : List Char) : Bool :=
  cs ≠ [] && cs.all Char.isDigit && cs.length ≤ 3 && (cs = ['0'] || cs.head? ≠ some '0') &&
    cs.foldl (fun n c => 10 * n + (c.toNat - 48)) 0 ≤ 255

def isShort (cs : List Char) : Bool :=
  let parts := Text.parts (· = '.') cs
  parts.length = 4 && parts.all isByte

def isWord (cs : List Char) : Bool :=
  cs ≠ [] && cs.length ≤ 4 && cs.all fun c => (Text.hexValue? c).isSome

def withoutShort (parts : List (List Char)) : List (List Char) :=
  match parts.getLast? with
  | some last => if isShort last then parts.dropLast ++ [['0'], ['0']] else parts
  | none => []

def unlessLeftOut (parts : List (List Char)) : List (List Char) :=
  if parts = [[]] then [] else parts

/-- Eight numbers, or fewer around one empty part between the others. -/
def areWords (parts : List (List Char)) : Bool :=
  match parts with
  | first :: rest =>
    let inner := rest.dropLast.takeWhile (· ≠ [])
    if inner.length = rest.dropLast.length then parts.length = 8 && parts.all isWord
    else
      let high := unlessLeftOut (first :: inner)
      let low := unlessLeftOut (rest.drop (inner.length + 1))
      high.length + low.length < 8 && (high ++ low).all isWord
  | [] => false

def isLong (cs : List Char) : Bool :=
  let parts := Text.parts (· = ':') (cs.takeWhile (· ≠ '%'))
  let zone := Text.after '%' cs
  (cs.contains '%' → zone ≠ [] && !zone.contains '%') && 3 ≤ parts.length &&
    areWords (withoutShort parts)

def isFuture (cs : List Char) : Bool :=
  let version := cs.takeWhile fun c => (Text.hexValue? c).isSome
  match cs.drop version.length with
  | '.' :: _ :: _ => version ≠ []
  | _ => false

def check (t : Text) : Except RequestFault Unit :=
  match t.chars with
  | 'v' :: rest => if isFuture rest then .ok () else .error .futureAddress
  | cs =>
    if isShort cs then .error .shortAddressInBrackets
    else if isLong cs then .ok ()
    else .error (.notAddress t)

end FeetInches.Api.Address

namespace FeetInches.Api

structure Authority where
  user : Text
  password : Text
  host : Text
  number : Text

namespace Authority

def place (t : Text) : Text := (t.reverse.takeWhile (· ≠ .char '@')).reverse

def ofText (t : Text) : Authority :=
  let place := place t
  let person := (t.take (t.length - place.length)).dropLast
  let user := person.takeWhile (· ≠ .char ':')
  let password := Text.after (.char ':') person
  if place.contains (.char '[') then
    let inside := Text.after (.char '[') place
    ⟨user, password, inside.takeWhile (· ≠ .char ']'),
      Text.after (.char ':') (Text.after (.char ']') inside)⟩
  else ⟨user, password, place.takeWhile (· ≠ .char ':'), Text.after (.char ':') place⟩

def checkInside (place : Text) : Except RequestFault Unit :=
  if place.contains (.char '[') then
    let inside := Text.after (.char '[') place
    let behind := Text.after (.char ']') inside
    if place.head? = some (.char '[') ∧ (behind = [] ∨ behind.head? = some (.char ':')) then
      Address.check (inside.takeWhile (· ≠ .char ']'))
    else .error .misplacedBracket
  else Address.check (place.takeWhile (· ≠ .char ':'))

def checkBrackets (t : Text) : Except RequestFault Unit :=
  let opened := t.contains (.char '[')
  if opened ≠ t.contains (.char ']') then .error .misplacedBracket
  else if opened then checkInside (place t)
  else .ok ()

def hiddenDelimiters : List Nat :=
  [0x2047, 0x2048, 0x2049, 0x2100, 0x2101, 0x2105, 0x2106, 0x2a74, 0xfe13, 0xfe16, 0xfe55, 0xfe56,
    0xfe5f, 0xfe6b, 0xff03, 0xff0f, 0xff1a, 0xff1f, 0xff20]

def checkText (t : Text) : Except RequestFault Unit := do
  checkBrackets t
  if t.any (hiddenDelimiters.contains ·.toNat) then .error (.hiddenDelimiter t)

def checkNumber (text : Text) : Except RequestFault Unit :=
  if text = [] then .ok ()
  else if text.chars.all Char.isDigit then
    match Numeral.readInteger text with
    | .error fault => .error (.hostNumber fault)
    | .ok n => if 65535 < n then .error .hostNumberTooLarge else .ok ()
  else .error (.notHostNumber text)

def checkEncodable (t : Text) : Except RequestFault Unit :=
  if t.all (·.char?.isSome) then .ok () else .error (.surrogates t)

def isUserChar (c : Char) : Bool :=
  c.isAlphanum || "_.-~%!$&'()*+,;=".toList.contains c

def percentEncode (cs : List Char) : List Char :=
  cs.flatMap fun c =>
    if isUserChar c then [c]
    else (String.singleton c).toUTF8.toList.flatMap fun b => '%' :: Text.hexDigits 2 b.toNat

def writtenUser (a : Authority) : Except RequestFault (List Char) := do
  if a.user = [] then return [] else
  checkEncodable a.user
  checkEncodable a.password
  let password := if a.password = [] then [] else ':' :: percentEncode a.password.chars
  return percentEncode a.user.chars ++ password ++ ['@']

def writtenNumber (a : Authority) : List Char :=
  match a.number.chars.dropWhile (· = '0') with
  | [] => []
  | digits => ':' :: digits

def written (a : Authority) : Except RequestFault (List Char) := do
  let small := a.host.map fun p => (p.char?.map (CodePoint.char ·.toLower)).getD p
  let host ← (HostName.encode small).mapError .hostName
  checkNumber a.number
  let user ← a.writtenUser
  return user ++ (if host.contains ':' then '[' :: host ++ [']'] else host) ++ a.writtenNumber

end Authority

/-- The parts of a target that count. The scheme is in small letters, and empty if there is none;
the query keeps the question mark in front of it. -/
structure Target where
  scheme : List Char
  authority : Text
  path : Text
  query : Text

namespace Target

def tidy (t : Text) : Text :=
  (t.dropWhile (·.toNat ≤ 32)).filter (· ∉ Text.ofChars ['\t', '\n', '\r'])

def isSchemeChar (c : Char) : Bool := c.isAlphanum || ['+', '-', '.'].contains c

def splitScheme (t : Text) : List Char × Text :=
  match t.span (· ≠ .char ':') with
  | (.char c :: name, _ :: rest) =>
    if c.isAlpha && (Text.chars name).all isSchemeChar
    then ((c :: Text.chars name).map Char.toLower, rest)
    else ([], t)
  | _ => ([], t)

def splitAuthority : Text → Text × Text
  | .char '/' :: .char '/' :: t => t.span (· ∉ Text.ofChars ['/', '?', '#'])
  | t => ([], t)

def read (t : Text) : Except RequestFault Target := do
  let (scheme, rest) := splitScheme (tidy t)
  let (authority, rest) := splitAuthority rest
  Authority.checkText authority
  let (path, query) := (rest.takeWhile (· ≠ .char '#')).span (· ≠ .char '?')
  return ⟨scheme, authority, path, query⟩

/-- Percent signs with two hexadecimal digits stand for a byte. Bytes beyond ASCII are shown as the
replacement character, since no name of a resource has any of them. -/
def decodePercents : List Char → List Char
  | '%' :: high :: low :: rest =>
    match Text.hexValue? high, Text.hexValue? low with
    | some high, some low =>
      let n := 16 * high + low
      Char.ofNat (if n < 128 then n else 0xfffd) :: decodePercents rest
    | _, _ => '%' :: decodePercents (high :: low :: rest)
  | c :: rest => c :: decodePercents rest
  | [] => []

def writtenPath (path : Text) : Except RequestFault (List Char) := do
  let target ← read path
  Authority.checkEncodable target.path
  let authority ← (Authority.ofText target.authority).written
  match tidy path with
  | .char '/' :: .char '/' :: _ => return authority ++ target.path.chars
  | path => return path.chars

def defaultHost : List Char := "localhost".toList

def writtenHost (target : Target) : Except RequestFault (List Char) := do
  if target.authority = [] then return defaultHost else
  let host ← (Authority.ofText target.authority).written
  Authority.checkBrackets (Text.ofChars host)
  return host

end Target

structure Destination where
  scheme : List Char := []
  host : List Char := Target.defaultHost
  path : List Char

namespace Destination

def socketSchemes : List String := ["ws", "wss"]

def isSocket (destination : Destination) : Bool :=
  socketSchemes.any (·.toList = destination.scheme)

def ofText (t : Text) : Except RequestFault Destination := do
  let outer ← Target.read t
  let inner ← Target.read outer.path
  let path ← Target.writtenPath inner.path
  let host ← outer.writtenHost
  Authority.checkEncodable (outer.path ++ outer.query)
  return ⟨outer.scheme, host, '/' :: (Target.decodePercents path).dropWhile (· = '/')⟩

end Destination

end FeetInches.Api
