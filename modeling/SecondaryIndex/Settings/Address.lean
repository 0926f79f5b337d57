/-
**Addresses of remote stores.**

* `Locator.ofString?` splits a text into scheme, host, port, path and query, or refuses it;
* `Address.ofString` reads an address from that: a host with a port and the number of a database, or
  the path of a socket;
* an `AddressFault` says what an address lacks.

A scheme of these is followed by two slashes, then by an authority that ends at a slash, a question
mark or a hash sign: what stands before its last at sign names a user and, behind a colon, the
password.
-/

import SecondaryIndex.Bytes
import SecondaryIndex.Text.Digits

namespace SecondaryIndex

/-- A text split at the marks of an address. -/
structure Locator where
  scheme : String
  /-- The host; empty if there is none. -/
  host : String
  port : Option Nat
  /-- The user and the password behind a colon, as they are written. -/
  credentials : List Char
  path : List Char
  query : List Char
  fragment : Option (List Char)

/-- Why a text is not the address of a store. -/
inductive AddressFault where
  | unreadable
  | noHost
  | invalidDatabase
  | noPath
  /-- The scheme asks for encryption. -/
  | noEncryption
  /-- The name of the user has bytes that are no text. -/
  | illegibleUser
  /-- The password has bytes that are no text. -/
  | illegiblePassword
  | unknownProtocol (name : String)
deriving DecidableEq

/-- The wording of a fault. -/
def AddressFault.message : AddressFault → String
  | .unreadable => "Redis URL did not parse"
  | .noHost => "Missing hostname"
  | .invalidDatabase => "Invalid database number"
  | .noPath => "Missing path"
  | .noEncryption => "can't connect with TLS, the feature is not enabled"
  | .illegibleUser => "Username is not valid UTF-8 string"
  | .illegiblePassword => "Password is not valid UTF-8 string"
  | .unknownProtocol _ => "Invalid protocol version"

/-- What a fault names beside its wording. -/
def AddressFault.detail? : AddressFault → Option String
  | .unknownProtocol name => some name
  | _ => none

/-- The address of a store. -/
inductive Address where
  | host (name : String) (port : Nat) (database : Int)
  | socket (path : String) (database : Int)
deriving DecidableEq

namespace Locator

/-! ### Hosts -/

/-- The text is a number of one to four hexadecimal digits. -/
def isHexGroup (group : List Char) : Bool :=
  !group.isEmpty && group.length ≤ 4 && (Text.number? 16 group).isSome

/-- The text is a number below 256 without needless zeros. -/
def isByteNumber (part : List Char) : Bool :=
  !part.isEmpty && part.all Char.isDigit && part.length ≤ 3 &&
    (part.length = 1 || part.head? ≠ some '0') && Nat.ofDigitChars 10 part 0 < 256

/-- The text is four numbers with dots between them. -/
def isDotted (text : List Char) : Bool :=
  let parts := text.splitOn '.'
  parts.length = 4 && parts.all isByteNumber

/-- How many groups of sixteen bits some text between colons has, if it is well formed; the last
group may be four numbers with dots if `dotted` says so. -/
def groupCount? (dotted : Bool) (text : List Char) : Option Nat :=
  if text.isEmpty then some 0
  else
    let groups := text.splitOn ':'
    match groups.getLast? with
    | none => none
    | some last =>
      if groups.dropLast.all isHexGroup then
        if isHexGroup last then some groups.length
        else if dotted && isDotted last then some (groups.length + 1)
        else none
      else none

/-- The text before the first two colons in a row, and the text after them. -/
def splitAtGap : List Char → Option (List Char × List Char)
  | ':' :: ':' :: rest => some ([], rest)
  | char :: rest => (splitAtGap rest).map fun (before, after) => (char :: before, after)
  | [] => none

/-- The text is an address of eight groups, a run of zeros left out at most once. -/
def isNumeric (text : List Char) : Bool :=
  match splitAtGap text with
  | none => groupCount? true text = some 8
  | some (before, after) =>
    match groupCount? false before, groupCount? true after with
    | some first, some second => first + second < 8
    | _, _ => false

/-- The character cannot stand in a host. -/
def isForbidden (char : Char) : Bool :=
  "\x00\t\n\r #/:<>?@[\\]^|".toList.contains char

/-- The host is well formed. -/
def isHost (text : List Char) : Bool :=
  if text.head? = some '[' then
    text.getLast? = some ']' && isNumeric ((text.drop 1).dropLast)
  else !text.any isForbidden

/-- The host at the start of an authority, and what follows it; colons in brackets belong to it. -/
def splitHost (inBrackets : Bool) : List Char → List Char × List Char
  | [] => ([], [])
  | char :: rest =>
    if char = ':' && !inBrackets then ([], char :: rest)
    else
      let (host, rest) := splitHost (char = '[' || (inBrackets && char ≠ ']')) rest
      (char :: host, rest)

/-- The port behind a host, if any digits say so, and what follows it: nothing or a backslash. -/
def splitPort : List Char → Option (Option Nat × List Char)
  | ':' :: text =>
    let digits := text.takeWhile Char.isDigit
    let rest := text.drop digits.length
    let port := Nat.ofDigitChars 10 digits 0
    if UInt16.size ≤ port then none
    else if rest.isEmpty || rest.head? = some '\\' then
      some (if digits.isEmpty then none else some port, rest)
    else none
  | _ => some (none, [])

/-! ### Parts -/

/-- The characters that are dropped wherever they stand. -/
def isIgnored (char : Char) : Bool :=
  char = '\t' || char = '\n' || char = '\r'

/-- A text without the characters that do not count. -/
def trimmed (text : String) : List Char :=
  let isOuter (char : Char) : Bool := char.toNat ≤ 0x20
  let inner := (((text.toList.dropWhile isOuter).reverse.dropWhile isOuter).reverse)
  inner.filter fun char => !isIgnored char

/-- The scheme and what follows its colon. -/
def splitScheme (text : List Char) : Option (String × List Char) :=
  let isInner (char : Char) : Bool := char.isAlphanum || "+-.".toList.contains char
  let scheme := text.takeWhile isInner
  match scheme.head?, text.drop scheme.length with
  | some first, ':' :: rest =>
    if first.isAlpha then some (String.ofList (scheme.map Char.toLower), rest) else none
  | _, _ => none

/-- The authority ends here. -/
def endsAuthority (char : Char) : Bool :=
  char = '/' || char = '?' || char = '#'

/-- The user before the last at sign, if there is such a sign, and what follows it. -/
def splitUser (authority : List Char) : Option (List Char) × List Char :=
  let host := (authority.reverse.takeWhile (· ≠ '@')).reverse
  if host.length = authority.length then (none, host)
  else (some (authority.take (authority.length - host.length - 1)), host)

/-- A path, a query behind a question mark and a fragment behind a hash sign. -/
def splitPath (text : List Char) : List Char × List Char × Option (List Char) :=
  let front := text.takeWhile (· ≠ '#')
  let path := front.takeWhile (· ≠ '?')
  (path, front.drop (path.length + 1),
    if front.length = text.length then none else some (text.drop (front.length + 1)))

/-- The locator of an authority and what follows it. What stands behind a port is part of the
path. -/
def ofAuthority? (scheme : String) (authority rest : List Char) : Option Locator := do
  let (user, place) := splitUser authority
  let credentials := user.getD []
  let (host, port) := splitHost false place
  let isNamed := credentials ≠ [] && credentials ≠ [':']
  if user = some [] && place.isEmpty && !rest.isEmpty then none
  else if host.isEmpty && (isNamed || !port.isEmpty) then none
  else if !isHost host then none
  else
    let (port, stray) ← splitPort port
    let (path, query, fragment) :=
      splitPath (if stray.isEmpty then rest else '/' :: stray ++ rest)
    return ⟨scheme, String.ofList host, port, credentials, path, query, fragment⟩

/-- The locator that a text spells. -/
def ofString? (text : String) : Option Locator := do
  let (scheme, rest) ← splitScheme (trimmed text)
  match rest with
  | '/' :: '/' :: rest =>
    let authority := rest.takeWhile fun char => !endsAuthority char
    ofAuthority? scheme authority (rest.drop authority.length)
  | rest =>
    let (path, query, fragment) := splitPath rest
    some ⟨scheme, "", none, [], path, query, fragment⟩

/-- The segment stands for its place, not for a name. -/
def isDot (segment : List Char) : Bool :=
  segment = ['.'] || segment.map Char.toLower = "%2e".toList

/-- The segment stands for the place above. -/
def isDoubleDot (segment : List Char) : Bool :=
  ["..", ".%2e", "%2e.", "%2e%2e"].contains (String.ofList (segment.map Char.toLower))

/-- The segments of a path with the dots followed. -/
def segments (path : List Char) : List (List Char) :=
  (path.splitOn '/').foldl (fun above segment =>
    if isDoubleDot segment then above.dropLast
    else if isDot segment then above
    else above ++ [segment]) []

/-- A path without slashes on either side. -/
def innerPath (path : List Char) : List Char :=
  let outer := ((segments path).dropWhile List.isEmpty).reverse.dropWhile List.isEmpty
  List.intercalate ['/'] outer.reverse

end Locator

namespace Address

/-- The schemes of addresses with a host. -/
def hostSchemes : List String :=
  ["redis", "valkey"]

/-- The schemes of addresses with a host that ask for encryption. -/
def secureSchemes : List String :=
  ["rediss", "valkeys"]

/-- The schemes of sockets. -/
def socketSchemes : List String :=
  ["redis+unix", "valkey+unix", "unix"]

/-- The port where none is given. -/
def defaultPort : Nat := 6379

/-- A signed number of 64 bits. -/
def database? (text : List Char) : Option Int :=
  let (negative, digits) :=
    match text with
    | '-' :: rest => (true, rest)
    | '+' :: rest => (false, rest)
    | digits => (false, digits)
  if digits.isEmpty || !digits.all Char.isDigit then none
  else
    let size : Int := Nat.ofDigitChars 10 digits 0
    let value := if negative then -size else size
    if -0x8000000000000000 ≤ value ∧ value < 0x8000000000000000 then some value else none

/-! ### Escapes -/

/-- The byte that two hexadecimal digits at the front spell. -/
def escapedByte? : Bytes → Option UInt8
  | high :: low :: _ =>
    (Text.number? 16 [Char.ofNat high.toNat, Char.ofNat low.toNat]).map UInt8.ofNat
  | _ => none

/-- Bytes with the escapes among them, a percent sign and two digits, replaced. -/
def unescaped : Bytes → Bytes
  | [] => []
  | byte :: rest =>
    match if byte = 0x25 then escapedByte? rest else none with
    | some escaped => escaped :: unescaped (rest.drop 2)
    | none => byte :: unescaped rest
termination_by bytes => bytes.length
decreasing_by all_goals (simp only [List.length_drop, List.length_cons]; omega)

/-- The bytes that a written text stands for. -/
def writtenBytes (text : List Char) : Bytes :=
  unescaped (Bytes.ofString (String.ofList text))

/-- The text that a part of a query stands for: plus signs are blanks there. -/
def queryText (text : List Char) : String :=
  (writtenBytes (text.map fun char => if char = '+' then ' ' else char)).toTextLossy

/-- The last value of a name in a query. -/
def parameter? (name : String) (query : List Char) : Option String :=
  (query.splitOn '&').foldl (fun found pair =>
    let key := pair.takeWhile (· ≠ '=')
    if queryText key = name then some (queryText (pair.drop (key.length + 1))) else found) none

/-! ### Checks -/

/-- The versions of the protocol. -/
def protocols : List String :=
  ["2", "resp2", "3", "resp3"]

/-- A query names no protocol, or a known one. -/
def checkProtocol (query : List Char) : Except AddressFault Unit :=
  match parameter? "protocol" query with
  | none => .ok ()
  | some name => if name ∈ protocols then .ok () else .error (.unknownProtocol name)

/-- User and password are texts. -/
def checkCredentials (credentials : List Char) : Except AddressFault Unit :=
  let user := credentials.takeWhile (· ≠ ':')
  let password := credentials.drop (user.length + 1)
  if (writtenBytes user).toText? = none then .error .illegibleUser
  else if (writtenBytes password).toText? = none then .error .illegiblePassword
  else .ok ()

/-- The number of the database, where one is needed. -/
def checkDatabase (text : List Char) : Except AddressFault Int :=
  (database? text).elim (.error .invalidDatabase) .ok

/-- The address of a host. -/
def ofHost (locator : Locator) : Except AddressFault Address :=
  if locator.host = "" then .error .noHost
  else do
    let path := Locator.innerPath locator.path
    let database ← if path.isEmpty then .ok 0 else checkDatabase path
    checkCredentials locator.credentials
    checkProtocol locator.query
    return .host locator.host (locator.port.getD defaultPort) database

/-- The address of a socket. -/
def ofSocket (locator : Locator) : Except AddressFault Address :=
  if (locator.host = "" ∨ locator.host = "localhost") ∧ locator.path.head? = some '/' then do
    let database ←
      (parameter? "db" locator.query).elim (.ok 0) fun database => checkDatabase database.toList
    checkProtocol locator.query
    return .socket (String.ofList locator.path) database
  else .error .noPath

/-- The address that a text spells. -/
def ofString (text : String) : Except AddressFault Address :=
  match Locator.ofString? text with
  | none => .error .unreadable
  | some locator =>
    if locator.scheme ∈ hostSchemes then ofHost locator
    else if locator.scheme ∈ secureSchemes then
      if locator.host = "" then .error .noHost else .error .noEncryption
    else if locator.scheme ∈ socketSchemes then ofSocket locator
    else .error .unreadable

end Address

end SecondaryIndex
