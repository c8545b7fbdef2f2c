import SheetAudit.Number.Reading
import SheetAudit.Text.Decoding
import SheetAudit.Url.HostName
import SheetAudit.Url.Reference

/-!
# URLs of requests

The URL of a request is in normal form: scheme and host in lower case, no port that the scheme
implies, no dot segments in the path, and every character that may not stand in its part as
percent-escaped bytes.  Query and fragment keep the difference between empty and missing.
-/

namespace SheetAudit.Url

open SheetAudit.Text
open SheetAudit.Number (readInt?)

/-- A URL in normal form. -/
structure RequestUrl where
  /-- The scheme. -/
  scheme : List Char
  /-- The user, perhaps with a password. -/
  userInfo : List Char
  /-- The host; a version 6 address without its brackets. -/
  host : List Char
  /-- The port, unless the scheme implies it. -/
  port : Option Int
  /-- The path. -/
  path : List Char
  /-- The query. -/
  query : Option (List Char)
  /-- The fragment. -/
  fragment : Option (List Char)
  deriving DecidableEq, Repr

/-- The greatest length of a URL. -/
def maxUrlLength : Nat := 65536

/-! ## Percent escapes -/

/-- The escape of a byte. -/
def escapeByte (b : UInt8) : List Char :=
  '%' :: (hexDigits 2 b.toNat).map fun c =>
    if 'a' ≤ c && c ≤ 'f' then Char.ofNat (c.toNat - 32) else c

/-- The text with an escape for each byte of a character that is not safe. -/
def escape (isSafe : Char → Bool) (cs : List Char) : List Char :=
  cs.flatMap fun c =>
    if isSafe c then [c] else c.toString.toUTF8.toList.flatMap escapeByte

/-- Whether a character is visible ASCII and not among those given. -/
def visibleExcept (excluded : String) (c : Char) : Bool :=
  0x20 ≤ c.toNat && c.toNat < 0x7F && !excluded.toList.contains c

/-- Whether a character may stand in a fragment. -/
def isFragmentSafe : Char → Bool := visibleExcept " \"<>\x60"

/-- Whether a character may stand in a query. -/
def isQuerySafe : Char → Bool := visibleExcept " \"#<>"

/-- Whether a character may stand in a path. -/
def isPathSafe : Char → Bool := visibleExcept " \"#<>?\x60\x7b\x7d"

/-- Whether a character may stand in the user part. -/
def isUserSafe : Char → Bool := visibleExcept " \"#<>?\x60\x7b\x7d/;=@[\\]^|"

/-- Whether a character may stand in the name of a host. -/
def isHostSafe (c : Char) : Bool :=
  isLetter c || isDigit c || "-._~!$&'()*+,;=\"\x60\x7b\x7d%|\\".toList.contains c

/-- Reads percent escapes as bytes; `out` holds the bytes read, last one first. -/
def unescapeFrom (out : List UInt8) : List Char → List UInt8
  | [] => out.reverse
  | '%' :: a :: b :: cs =>
    if isHexDigit a && isHexDigit b then
      unescapeFrom ((16 * hexValue a + hexValue b).toUInt8 :: out) cs
    else unescapeFrom ('%'.toNat.toUInt8 :: out) (a :: b :: cs)
  | c :: cs => unescapeFrom (c.toString.toUTF8.toList.reverse ++ out) cs

/-- The text that percent escapes stand for. -/
def unescape (cs : List Char) : List Char :=
  decodeUtf8 (unescapeFrom [] cs)

/-! ## The parts of a URL -/

/-- Whether a host looks like a version 4 address: four runs of digits, divided by dots. -/
def looksLikeVersion4 (host : List Char) : Bool :=
  let groups := host.splitOn '.'
  groups.length == 4 && groups.all fun g => !g.isEmpty && g.all isDigit

/-- The host in normal form. -/
def normalizeHost (host : List Char) : Except UrlError (List Char) :=
  if host.isEmpty then .ok []
  else if looksLikeVersion4 host then
    if isVersion4 host then .ok host else .error (.malformedVersion4 (String.ofList host))
  else if host.head? = some '[' && host.getLast? = some ']' then
    let address := (host.drop 1).dropLast
    if isVersion6 address then .ok address else .error (.malformedVersion6 (String.ofList host))
  else if host.all (·.toNat < 128) then .ok (escape isHostSafe (lower host))
  else
    match asciiHostName? (lowerCase host) with
    | some name => .ok name
    | none => .error (.malformedHostName (String.ofList host))

/-- The port that a scheme implies. -/
def defaultPort? (scheme : List Char) : Option Int :=
  [("ftp", 21), ("http", 80), ("https", 443), ("ws", 80), ("wss", 443)].lookup
    (String.ofList scheme)

/-- The port, unless the scheme implies it. -/
def normalizePort (scheme port : List Char) : Except UrlError (Option Int) :=
  if port.isEmpty then .ok none
  else
    match readInt? port with
    | none => .error (.malformedPort (String.ofList port))
    | some n => .ok (if some n = defaultPort? scheme then none else some n)

/-- The path without dot segments. -/
def normalizePath (path : List Char) : List Char :=
  let segments := path.splitOn '/'
  let done := segments.foldl (fun done segment =>
    if segment = ['.'] then done
    else if segment = ['.', '.'] then if done = [[]] then done else done.tail
    else segment :: done) []
  ['/'].intercalate done.reverse

/-- User, host and port of the host part of a URL. -/
def splitHost (authority : List Char) : List Char × List Char × List Char :=
  let rest := afterLast '@' authority
  let user := authority.take (authority.length - rest.length - 1)
  let (host, port) :=
    if rest.head? = some '[' && rest.contains ']' then
      let port := (rest.reverse.takeWhile (· != ']')).reverse
      (rest.take (rest.length - port.length), port)
    else (rest.takeWhile (· != ':'), rest.dropWhile (· != ':'))
  (user, host, if port.head? = some ':' then port.drop 1 else port)

/-- Checks that a path can stand behind what precedes it. -/
def checkPath (hasScheme hasHost : Bool) (path : List Char) : Except UrlError Unit :=
  if hasHost then
    if path.isEmpty || path.head? = some '/' then .ok () else .error .pathWithoutSlash
  else if hasScheme then .ok ()
  else if startsWith ['/', '/'] path then .error .pathWithTwoSlashes
  else if path.head? = some ':' then .error .pathWithColon
  else .ok ()

/-- The first control character of a text and its position. -/
def controlCharacter? (cs : List Char) : Option (Char × Nat) :=
  cs.zipIdx.find? fun (c, _) => c.toNat < 32 || c.toNat == 127

/-- The scheme of a text as it is written, and what follows it. -/
def writtenScheme (cs : List Char) : List Char × List Char :=
  match cut? [':'] cs with
  | some ([], rest) => ([], rest)
  | some (c :: scheme, rest) =>
    if isLetter c && scheme.all isSchemeChar then (c :: scheme, rest) else ([], cs)
  | none => ([], cs)

namespace RequestUrl

/-- Whether a URL has a host part. -/
def hasAuthority (u : RequestUrl) : Bool :=
  !u.userInfo.isEmpty || !u.host.isEmpty || u.port.isSome

/-- Brings the parts of a URL into normal form. -/
def ofParts (scheme user host port path : List Char) (query fragment : Option (List Char)) :
    Except UrlError RequestUrl := do
  let host ← normalizeHost host
  let port ← normalizePort scheme port
  let url : RequestUrl :=
    { scheme := lower scheme, userInfo := escape isUserSafe user, host, port, path,
      query := query.map (escape isQuerySafe), fragment := fragment.map (escape isFragmentSafe) }
  checkPath (!scheme.isEmpty) url.hasAuthority path
  -- only a path behind a scheme or a host is complete, so that its dots can be resolved
  let path := if !scheme.isEmpty || url.hasAuthority then normalizePath path else path
  return { url with path := escape isPathSafe path }

/-- Takes a text apart and brings it into normal form. -/
def parse (cs : List Char) : Except UrlError RequestUrl := do
  if maxUrlLength < cs.length then throw .tooLong
  if let some (c, position) := controlCharacter? cs then throw (.controlCharacter c position)
  let (scheme, rest) := writtenScheme cs
  let (authority, rest) := splitAuthority rest
  let (rest, fragment) := match cut? ['#'] rest with
    | some (before, fragment) => (before, some fragment)
    | none => (rest, none)
  let (path, query) := match cut? ['?'] rest with
    | some (before, query) => (before, some query)
    | none => (rest, none)
  let (user, host, port) := splitHost authority
  ofParts scheme user host port path query fragment

/-- The host part of a URL. -/
def authority (u : RequestUrl) : List Char :=
  (if u.userInfo.isEmpty then [] else u.userInfo ++ ['@']) ++
  (if u.host.contains ':' then '[' :: u.host ++ [']'] else u.host) ++
  match u.port with
  | some n => ':' :: (toString n).toList
  | none => []

/-- The text of a URL. -/
def toText (u : RequestUrl) : List Char :=
  (if u.scheme.isEmpty then [] else u.scheme ++ [':']) ++
  (if u.authority.isEmpty then [] else '/' :: '/' :: u.authority) ++ u.path ++
  (match u.query with
    | some query => '?' :: query
    | none => []) ++
  (match u.fragment with
    | some fragment => '#' :: fragment
    | none => [])

/-- Whether a URL has scheme and host. -/
def isAbsolute (u : RequestUrl) : Bool :=
  !u.scheme.isEmpty && !u.host.isEmpty

/-- The URL that is asked for: an absolute one as it is, of any other the path and the query, below
the root. -/
def rooted (u : RequestUrl) : RequestUrl :=
  if u.isAbsolute then u
  else
    { scheme := [], userInfo := [], host := [], port := none,
      path := '/' :: u.path.dropWhile (· == '/'), query := u.query, fragment := none }

/-- The URL with another host. -/
def withHost (u : RequestUrl) (host : List Char) : Except UrlError RequestUrl := do
  checkPath (!u.scheme.isEmpty) (u.hasAuthority || !host.isEmpty) u.path
  return { u with host }

/-- The URL with a fragment given by its text. -/
def withFragment (u : RequestUrl) (fragment : List Char) : Except UrlError RequestUrl := do
  if let some (c, position) := controlCharacter? fragment then
    throw (.controlCharacterIn "fragment" c position)
  return { u with fragment := some (escape isFragmentSafe fragment) }

end RequestUrl

end SheetAudit.Url
