import SheetAudit.Text.Case
import SheetAudit.Text.Cut
import SheetAudit.Url.Address
import SheetAudit.Url.Error

/-!
# URL references and how they are resolved

A reference has a scheme, a host part, a path with parameters behind its last segment, a query and a
fragment, any of which may be empty.  `Reference.parse` takes a text apart, `Reference.toText` puts
it together, and `join` resolves a reference against the URL of the page where it stands.  Schemes
that are not hierarchical are not resolved.
-/

namespace SheetAudit.Url

open SheetAudit.Text

/-- The parts of a URL; a part that is missing is empty. -/
structure Reference where
  /-- The scheme, in lower case. -/
  scheme : List Char
  /-- The host with user and port. -/
  authority : List Char
  /-- The path without parameters. -/
  path : List Char
  /-- The parameters of the last segment. -/
  params : List Char
  /-- The query. -/
  query : List Char
  /-- The fragment. -/
  fragment : List Char
  deriving DecidableEq, Repr

/-- Schemes whose references are resolved. -/
def relativeSchemes : List String :=
  ["", "ftp", "http", "gopher", "nntp", "imap", "wais", "file", "https", "shttp", "mms", "prospero",
    "rtsp", "rtspu", "sftp", "svn", "svn+ssh", "ws", "wss"]

/-- Schemes with a host. -/
def hostSchemes : List String :=
  ["", "ftp", "http", "gopher", "nntp", "telnet", "imap", "wais", "file", "mms", "https", "shttp",
    "snews", "prospero", "rtsp", "rtspu", "rsync", "svn", "svn+ssh", "sftp", "nfs", "git",
    "git+ssh", "ws", "wss"]

/-- Schemes with parameters behind the last segment of a path. -/
def paramSchemes : List String :=
  ["", "ftp", "hdl", "prospero", "http", "imap", "https", "shttp", "rtsp", "rtspu", "sip",
    "sips", "mms", "sftp", "tel"]

/-- Whether a scheme is in a list. -/
def schemeIn (schemes : List String) (scheme : List Char) : Bool :=
  schemes.contains (String.ofList scheme)

/-- Whether a character may stand in a scheme. -/
def isSchemeChar (c : Char) : Bool :=
  isLetter c || isDigit c || c == '+' || c == '-' || c == '.'

/-- The text without leading controls and spaces, and without tabs and line breaks. -/
def cleaned (cs : List Char) : List Char :=
  (cs.dropWhile (·.toNat ≤ 32)).filter fun c => c != '\t' && c != '\r' && c != '\n'

/-- The scheme of a text and what follows it. -/
def splitScheme? (cs : List Char) : Option (List Char × List Char) :=
  match cut? [':'] cs with
  | some (c :: scheme, rest) =>
    if isLetter c && scheme.all isSchemeChar then some (lower (c :: scheme), rest) else none
  | _ => none

/-- Whether a character ends the host part. -/
def endsAuthority (c : Char) : Bool :=
  c == '/' || c == '?' || c == '#'

/-- The host part of a text that starts with two slashes, and what follows it. -/
def splitAuthority (cs : List Char) : List Char × List Char :=
  match cs with
  | '/' :: '/' :: rest =>
    (rest.takeWhile (!endsAuthority ·), rest.dropWhile (!endsAuthority ·))
  | _ => ([], cs)

/-- The code points that normalise to text with one of the delimiters of a URL. -/
def lookalikes : List Nat :=
  [0x2047, 0x2048, 0x2049, 0x2100, 0x2101, 0x2105, 0x2106, 0x2A74, 0xFE13, 0xFE16, 0xFE55, 0xFE56,
    0xFE5F, 0xFE6B, 0xFF03, 0xFF0F, 0xFF1A, 0xFF1F, 0xFF20]

/-- What follows the last occurrence of a character, or the whole text. -/
def afterLast (mark : Char) (cs : List Char) : List Char :=
  (cs.reverse.takeWhile (· != mark)).reverse

/-- The text where an address is looked for in a host part that holds brackets: behind the user,
between brackets with at most a port behind them, or else in front of the port. -/
def bracketedHost (authority : List Char) : Except UrlError (List Char) :=
  match cut? ['['] (afterLast '@' authority) with
  | some ([], bracketed) =>
    let (host, port) := partition [']'] bracketed
    if port.isEmpty || port.head? = some ':' then .ok host else .error .misplacedBrackets
  | some (_ :: _, _) => .error .misplacedBrackets
  | none => .ok (partition [':'] (afterLast '@' authority)).1

/-- Checks the address between the brackets of a host part. -/
def checkBracketedHost (host : List Char) : Except UrlError Unit :=
  if host.head? = some 'v' then
    if isFutureVersion host then .ok () else .error .malformedFutureAddress
  else if isVersion4 host then .error .bracketedVersion4
  else if isVersion6 host then .ok ()
  else .error (.notAnAddress (String.ofList host))

/-- Checks the brackets of a host part. -/
def checkBrackets (authority : List Char) : Except UrlError Unit :=
  match authority.contains '[', authority.contains ']' with
  | false, false => .ok ()
  | true, true => bracketedHost authority >>= checkBracketedHost
  | _, _ => .error .misplacedBrackets

/-- Checks the host part of a URL. -/
def checkAuthority (authority : List Char) : Except UrlError Unit := do
  checkBrackets authority
  if authority.any fun c => lookalikes.contains c.toNat then
    throw (.lookalikeDelimiters (String.ofList authority))

/-- The path without the parameters of its last segment, and those parameters. -/
def splitParams (path : List Char) : List Char × List Char :=
  let last := afterLast '/' path
  let before := path.take (path.length - last.length)
  match cut? [';'] last with
  | some (segment, params) => (before ++ segment, params)
  | none => (path, [])

namespace Reference

/-- Takes a text apart; `scheme` is the scheme of a text without one. -/
def parse (scheme cs : List Char) : Except UrlError Reference := do
  let cs := cleaned cs
  let (scheme, rest) := (splitScheme? cs).getD (scheme, cs)
  let (authority, rest) := splitAuthority rest
  checkAuthority authority
  let (rest, fragment) := partition ['#'] rest
  let (path, query) := partition ['?'] rest
  let (path, params) := if schemeIn paramSchemes scheme then splitParams path else (path, [])
  return { scheme, authority, path, params, query, fragment }

/-- Whether the text of a reference shows a host part, be it empty.  A path that starts with two
slashes is taken for a place with its host. -/
def showsAuthority (r : Reference) (path : List Char) : Bool :=
  !r.authority.isEmpty ||
    (!r.scheme.isEmpty && schemeIn hostSchemes r.scheme && !startsWith ['/', '/'] path)

/-- The text of a reference. -/
def toText (r : Reference) : List Char :=
  let path := if r.params.isEmpty then r.path else r.path ++ ';' :: r.params
  let place :=
    if r.showsAuthority path then
      '/' :: '/' :: r.authority ++
        (if path.isEmpty || path.head? = some '/' then path else '/' :: path)
    else path
  (if r.scheme.isEmpty then [] else r.scheme ++ [':']) ++ place ++
    (if r.query.isEmpty then [] else '?' :: r.query) ++
    (if r.fragment.isEmpty then [] else '#' :: r.fragment)

end Reference

/-- Goes on from the segments of a path, last one first, by one segment. -/
def stepSegment (done : List (List Char)) (segment : List Char) : List (List Char) :=
  if segment = ['.', '.'] then done.tail
  else if segment = ['.'] then done
  else segment :: done

/-- The segments of a path without those that stand for the same or the upper directory. -/
def resolveSegments (segments : List (List Char)) : List (List Char) :=
  let done := segments.foldl stepSegment []
  let isDirectory := segments.getLast? = some ['.'] || segments.getLast? = some ['.', '.']
  (if isDirectory then [] :: done else done).reverse

/-- The segments of a relative path behind a base path: the last segment of the base gives way, and
empty segments between the first and the last vanish. -/
def appendSegments (base path : List Char) : List (List Char) :=
  let baseSegments := base.splitOn '/'
  let kept := if baseSegments.getLast? = some [] then baseSegments else baseSegments.dropLast
  match kept ++ path.splitOn '/' with
  | [] => []
  | first :: rest =>
    match rest.getLast? with
    | none => [first]
    | some last => first :: rest.dropLast.filter (!·.isEmpty) ++ [last]

/-- The path to which a path leads from a base path. -/
def joinPath (base path : List Char) : List Char :=
  let segments :=
    if path.head? = some '/' then path.splitOn '/' else appendSegments base path
  let joined := ['/'].intercalate (resolveSegments segments)
  if joined.isEmpty then ['/'] else joined

/-- The URL to which a reference leads from a base URL. -/
def join (base reference : List Char) : Except UrlError (List Char) := do
  if base.isEmpty then return reference
  if reference.isEmpty then return base
  let b ← Reference.parse [] base
  let r ← Reference.parse b.scheme reference
  if r.scheme ≠ b.scheme ∨ !schemeIn relativeSchemes r.scheme then return reference
  if schemeIn hostSchemes r.scheme ∧ !r.authority.isEmpty then return r.toText
  let authority := if schemeIn hostSchemes r.scheme then b.authority else r.authority
  if r.path.isEmpty ∧ r.params.isEmpty then
    let query := if r.query.isEmpty then b.query else r.query
    return { r with authority, path := b.path, params := b.params, query : Reference }.toText
  return { r with authority, path := joinPath b.path r.path : Reference }.toText

/-- Whether a text names a web page by its scheme. -/
def isUrl (text : String) : Bool :=
  startsWith "http://".toList text.toList || startsWith "https://".toList text.toList

/-- The text with a scheme, a secure one if it has none. -/
def withScheme (text : String) : String :=
  if isUrl text then text else "https://" ++ text

/-- The URL of a stylesheet that a page links. -/
def resolveLink (href page : String) : Except UrlError String :=
  if startsWith ['/', '/'] href.toList then .ok ("https:" ++ href)
  else (join page.toList href.toList).map String.ofList

end SheetAudit.Url
