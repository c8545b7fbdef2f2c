import SheetAudit.Text.Quoted

/-!
# What can be wrong with a URL

`UrlError` names the causes for which a text cannot be taken for a URL, or a URL cannot be asked
for.
-/

namespace SheetAudit.Url

open SheetAudit.Text (quoted)

/-- What is wrong with a URL. -/
inductive UrlError where
  /-- The square brackets of the host are not around all of it. -/
  | misplacedBrackets
  /-- A bracketed address of a version yet to come is malformed. -/
  | malformedFutureAddress
  /-- What stands between brackets is no address. -/
  | notAnAddress (host : String)
  /-- A version 4 address stands between brackets. -/
  | bracketedVersion4
  /-- The host holds characters that can be taken for delimiters. -/
  | lookalikeDelimiters (host : String)
  /-- Neither scheme nor host is known. -/
  | unknownType (url : String)
  /-- The URL is too long. -/
  | tooLong
  /-- The URL holds a control character. -/
  | controlCharacter (c : Char) (position : Nat)
  /-- A component of the URL holds a control character. -/
  | controlCharacterIn (component : String) (c : Char) (position : Nat)
  /-- The port is not a number. -/
  | malformedPort (port : String)
  /-- The host looks like a version 4 address and is none. -/
  | malformedVersion4 (host : String)
  /-- The host is bracketed and no version 6 address. -/
  | malformedVersion6 (host : String)
  /-- The host is no international name. -/
  | malformedHostName (host : String)
  /-- The path behind a host does not start with a slash. -/
  | pathWithoutSlash
  /-- A path without scheme and host starts with two slashes. -/
  | pathWithTwoSlashes
  /-- A path without scheme and host starts with a colon. -/
  | pathWithColon
  deriving DecidableEq, Repr

/-- What an error says. -/
def UrlError.message : UrlError → String
  | .misplacedBrackets => "Invalid IPv6 URL"
  | .malformedFutureAddress => "IPvFuture address is invalid"
  | .notAnAddress host => s!"{quoted host} does not appear to be an IPv4 or IPv6 address"
  | .bracketedVersion4 => "An IPv4 address cannot be in brackets"
  | .lookalikeDelimiters host =>
    s!"netloc '{host}' contains invalid characters under NFKC normalization"
  | .unknownType url => s!"unknown url type: {quoted url}"
  | .tooLong => "URL too long"
  | .controlCharacter c position =>
    s!"Invalid non-printable ASCII character in URL, {quoted c.toString} at position {position}."
  | .controlCharacterIn component c position =>
    s!"Invalid non-printable ASCII character in URL {component} component, " ++
      s!"{quoted c.toString} at position {position}."
  | .malformedPort port => s!"Invalid port: {quoted port}"
  | .malformedVersion4 host => s!"Invalid IPv4 address: {quoted host}"
  | .malformedVersion6 host => s!"Invalid IPv6 address: {quoted host}"
  | .malformedHostName host => s!"Invalid IDNA hostname: {quoted host}"
  | .pathWithoutSlash => "For absolute URLs, path must be empty or begin with '/'"
  | .pathWithTwoSlashes => "Relative URLs cannot have a path starting with '//'"
  | .pathWithColon => "Relative URLs cannot have a path starting with ':'"

end SheetAudit.Url
