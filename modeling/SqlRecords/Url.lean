/-
This file reads and changes urls of servers: a scheme, the authority with its user, password,
host and port, a path, a query and a fragment.

A few schemes are special: their hosts are domain names that must not be empty, and they have
default ports that are not written. In all other urls a host is an opaque name. In either kind
of url it may also be an address in brackets. What has no place in a part of a url is
percent-encoded when the part is read or set, so the text of a url is the concatenation of its
parts.

The user, the password and the port can be set only where there is a host, and never in a url of
a file.
-/

import SqlRecords.Text.Blank
import SqlRecords.Url.Domain
import SqlRecords.Url.Ipv6

namespace SqlRecords

/-- A url. All texts are kept in their encoded form. -/
structure Url where
  scheme : List Char
  user : List Char
  password : List Char
  /-- the host, if there is one -/
  host : Option (List Char)
  port : Option Nat
  path : List Char
  query : Option (List Char)
  fragment : Option (List Char)
deriving DecidableEq

namespace Url

/-! ### Errors -/

/-- Why a text is not a url. -/
inductive TextError where
  | relative
  | emptyHost
  | invalidPort
  | invalidDomainName
  | invalidDomainCharacter
  | invalidIpv4Address
  | invalidIpv6Address
deriving DecidableEq, Repr

/-- The wording of the reason. -/
def TextError.message : TextError → String
  | relative => "relative URL without a base"
  | emptyHost => "empty host"
  | invalidPort => "invalid port number"
  | invalidDomainName => "invalid international domain name"
  | invalidDomainCharacter => "invalid domain character"
  | invalidIpv4Address => "invalid IPv4 address"
  | invalidIpv6Address => "invalid IPv6 address"

/-! ### Schemes -/

/-- The schemes whose hosts are domain names, with their default ports. -/
def specialSchemes : List (List Char × Option Nat) :=
  [("http".toList, some 80), ("https".toList, some 443), ("ws".toList, some 80),
    ("wss".toList, some 443), ("ftp".toList, some 21), ("file".toList, none)]

/-- Whether the hosts of a scheme are domain names. -/
def isSpecial (scheme : List Char) : Bool :=
  (specialSchemes.lookup scheme).isSome

/-- Whether a scheme is that of files. -/
def isFile (scheme : List Char) : Bool :=
  scheme == "file".toList

/-- The port that a scheme has when none is given. -/
def defaultPort (scheme : List Char) : Option Nat :=
  (specialSchemes.lookup scheme).bind id

/-- Reads the scheme in front of the first colon: a letter, then letters, digits, plus signs,
hyphens and points. Gives it in lower case, with what follows the colon. -/
def readScheme (characters : List Char) : Option (List Char × List Char) :=
  let allowed (character : Char) : Bool :=
    character.isAlphanum || character == '+' || character == '-' || character == '.'
  let scheme := characters.takeWhile allowed
  match scheme, characters.dropWhile allowed with
  | first :: _, ':' :: rest =>
    if first.isAlpha then some (scheme.map Char.toLower, rest) else none
  | _, _ => none

/-! ### The authority -/

/-- Whether a character ends the authority of a url. -/
def endsAuthority (special : Bool) (character : Char) : Bool :=
  character == '/' || character == '?' || character == '#' || (special && character == '\\')

/-- The user and the password in front of an at sign. -/
def readUser (characters : List Char) : List Char × List Char :=
  let user := characters.takeWhile (· != ':')
  let password := (characters.dropWhile (· != ':')).drop 1
  (percentEncode keptInUser user, percentEncode keptInUser password)

/-- The part of an authority that is its host: everything up to the first colon outside of
brackets. -/
def hostPart : Bool → List Char → List Char
  | _, [] => []
  | inBrackets, character :: rest =>
    if character = ':' ∧ !inBrackets then []
    else
      character :: hostPart (if character = '[' then true else if character = ']' then false
        else inBrackets) rest

/-- Reads a domain name, or the address that it is. -/
def readDomain (characters : List Char) : Except TextError (List Char) :=
  match plainDomain? characters with
  | none => .error .invalidDomainName
  | some [] => .error .emptyHost
  | some domain =>
    if endsInNumber domain then
      match readIpv4 domain with
      | some bytes => .ok (ipv4Text bytes)
      | none => .error .invalidIpv4Address
    else
      .ok domain

/-- Reads a host: an address in brackets, a domain name where the scheme asks for one, or an
opaque name. -/
def readHost (special : Bool) (characters : List Char) : Except TextError (List Char) :=
  match characters with
  | '[' :: inner =>
    if inner.getLast? = some ']' then
      match readIpv6 inner.dropLast with
      | some numbers => .ok (['['] ++ ipv6Text numbers ++ [']'])
      | none => .error .invalidIpv6Address
    else
      .error .invalidIpv6Address
  | _ =>
    if special then readDomain characters
    else if characters.any forbiddenInHost then .error .invalidDomainCharacter
    else .ok (percentEncode keptInHost characters)

/-- Reads the port behind a host: a colon and digits up to the end or a backslash, or nothing.
The default port is not kept. -/
def readPort (scheme : List Char) : List Char → Except TextError (Option Nat)
  | [] => .ok none
  | _ :: rest =>
    let digits := rest.takeWhile (· != '\\')
    if digits.all Char.isDigit then
      let port := Nat.ofDigitChars 10 digits 0
      if 65535 < port then .error .invalidPort
      else if digits.isEmpty || some port == defaultPort scheme then .ok none
      else .ok (some port)
    else
      .error .invalidPort

/-- The parts of an authority. -/
structure Authority where
  user : List Char
  password : List Char
  host : Option (List Char)
  port : Option Nat

/-- Whether a text is the name of a drive: a letter and a colon or a bar. -/
def isDrive : List Char → Bool
  | [letter, mark] => letter.isAlpha && (mark == ':' || mark == '|')
  | _ => false

/-- Reads an authority. The flag says whether the url goes on behind it. A user without a host
is refused. In the url of a file the authority is a host, unless it is the name of a drive. -/
def readAuthority (scheme characters : List Char) (continues : Bool) :
    Except TextError Authority := do
  let special := isSpecial scheme
  if isFile scheme then
    if characters.isEmpty || isDrive characters then
      return ⟨[], [], none, none⟩
    else
      return ⟨[], [], some (← readHost special characters), none⟩
  let (before, place) := (Text.splitAtLast? '@' characters).getD ([], characters)
  let (user, password) := readUser before
  let name := hostPart false place
  let behind := place.drop name.length
  let hasUser := !user.isEmpty || !password.isEmpty
  let bareSign := characters.head? == some '@' && continues
  if name.isEmpty ∧ (special ∨ !behind.isEmpty ∨ hasUser ∨ bareSign) then throw .emptyHost
  let host ← readHost special name
  let port ← readPort scheme behind
  return ⟨user, password, if host.isEmpty then none else some host, port⟩

/-! ### The path -/

/-- Whether a segment of a path stands for the place it is in. -/
def isHere (segment : List Char) : Bool :=
  [".", "%2e"].any fun dots => segment.map Char.toLower == dots.toList

/-- Whether a segment of a path stands for the place above. -/
def isAbove (segment : List Char) : Bool :=
  ["..", "%2e%2e", "%2e.", ".%2e"].any fun dots => segment.map Char.toLower == dots.toList

/-- Goes back from the last walked segment. There is no way back from a drive. -/
def goBack : List (List Char) → List (List Char)
  | [] => []
  | last :: before => if isDrive last then last :: before else before

/-- Walks along the segments of a path. What was walked is kept in reverse order. -/
def walk : List (List Char) → List (List Char) → List (List Char)
  | walked, [] => walked
  | walked, [last] =>
    if isAbove last then [] :: goBack walked
    else if isHere last then [] :: walked
    else last :: walked
  | walked, segment :: rest =>
    if isAbove segment then walk (goBack walked) rest
    else if isHere segment then walk walked rest
    else walk (segment :: walked) rest

/-- Whether a character is a tabulator or a line end, which urls pass over. -/
def isPassedOver (character : Char) : Bool :=
  character == '\t' || character == '\n' || character == '\r'

/-- The path with the given segments, encoded and with the dots resolved. -/
def pathOf (scheme characters : List Char) : List Char :=
  let seen := characters.filter (!isPassedOver ·)
  let slashed :=
    if isSpecial scheme then seen.map fun character => if character = '\\' then '/' else character
    else seen
  let segments := (Text.splitAt '/' slashed).map (percentEncode keptInPath)
  '/' :: List.intercalate ['/'] (walk [] segments).reverse

/-! ### Whole urls -/

/-- Splits what follows a path into query and fragment. -/
def readQueryAndFragment (special : Bool) (characters : List Char) :
    Option (List Char) × Option (List Char) :=
  let beforeFragment := characters.takeWhile (· != '#')
  let fragment :=
    match characters.dropWhile (· != '#') with
    | _ :: rest => some (percentEncode keptInFragment rest)
    | [] => none
  let query :=
    match beforeFragment with
    | '?' :: rest => some (percentEncode (keptInQuery special) rest)
    | _ => none
  (query, fragment)

/-- Whether a character divides a path in the special schemes. -/
def isSlash (character : Char) : Bool :=
  character == '/' || character == '\\'

/-- What follows the slashes in front of an authority, if there is one. Special schemes have one
after any number of slashes, but that of files only after two. -/
def authorityStart? (scheme characters : List Char) : Option (List Char) :=
  if isSpecial scheme && !isFile scheme then
    some (characters.dropWhile isSlash)
  else
    match characters with
    | first :: second :: rest =>
      let divides := if isFile scheme then isSlash else (· == '/')
      if divides first && divides second then some rest else none
    | _ => none

/-- Reads what follows the slashes in front of an authority. -/
def readBehindSlashes (scheme characters : List Char) : Except TextError Url := do
  let special := isSpecial scheme
  let behind := characters.dropWhile (!endsAuthority special ·)
  let authority ←
    readAuthority scheme (characters.takeWhile (!endsAuthority special ·)) (!behind.isEmpty)
  let isPathEnd (character : Char) : Bool := character == '?' || character == '#'
  let path := behind.takeWhile (!isPathEnd ·)
  let (query, fragment) := readQueryAndFragment special (behind.dropWhile (!isPathEnd ·))
  return {
    scheme := scheme
    user := authority.user
    password := authority.password
    host := authority.host
    port := authority.port
    path := if path.isEmpty ∧ !special then [] else pathOf scheme (path.drop 1)
    query := query
    fragment := fragment }

/-- Reads a url. Control characters and blanks around it do not count, and neither do
tabulators and line ends inside. -/
def ofText (characters : List Char) : Except TextError Url := do
  let outer (character : Char) : Bool := character ≤ ' '
  let seen := (Text.strip outer characters).filter (!isPassedOver ·)
  match readScheme seen with
  | none => throw .relative
  | some (scheme, rest) =>
    match authorityStart? scheme rest with
    | some authority => readBehindSlashes scheme authority
    | none => return ⟨scheme, [], [], none, none, rest, none, none⟩

/-- The text of a url. -/
def characters (url : Url) : List Char :=
  url.scheme ++ [':'] ++
    (match url.host with
      | none => []
      | some host =>
        ['/', '/'] ++ url.user ++ (if url.password.isEmpty then [] else [':'] ++ url.password) ++
          (if url.user.isEmpty && url.password.isEmpty then [] else ['@']) ++ host ++
          (match url.port with
            | some port => [':'] ++ Nat.toDigits 10 port
            | none => [])) ++
    url.path ++
    (match url.query with
      | some query => ['?'] ++ query
      | none => []) ++
    (match url.fragment with
      | some fragment => ['#'] ++ fragment
      | none => [])

/-- The text of a url. -/
def text (url : Url) : String :=
  String.ofList url.characters

/-! ### Changing the parts -/

/-- Whether user, password and port of a url can be set. -/
def hasAuthority (url : Url) : Bool :=
  url.host.isSome && !isFile url.scheme

/-- A url with another port, or with none. -/
def setPort? (url : Url) (port : Option Nat) : Option Url :=
  if url.hasAuthority then
    some { url with port := if port = defaultPort url.scheme then none else port }
  else
    none

/-- A url with another user. -/
def setUser? (url : Url) (user : List Char) : Option Url :=
  if url.hasAuthority then some { url with user := percentEncode keptInUser user } else none

/-- A url with another password. -/
def setPassword? (url : Url) (password : List Char) : Option Url :=
  if url.hasAuthority then some { url with password := percentEncode keptInUser password }
  else none

/-- A url with another path, given without the slash in front. -/
def setPath (url : Url) (path : List Char) : Url :=
  { url with path := pathOf url.scheme path }

end Url

end SqlRecords
