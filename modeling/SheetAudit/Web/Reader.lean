import SheetAudit.Page.Nesting
import SheetAudit.Url.Request
import SheetAudit.Web.Response

/-!
# Reading URLs, answers and pages

A collection sends requests through a client and takes pages apart with a parser.  A `Reader` is
what it uses of the two: how a text is read as the URL of a request, where a redirect leads, how the
body of an answer is read as text, and what the tags of a page are.  The collection works with any
reader. `Reader.builtIn` is the one that the program runs with.
-/

namespace SheetAudit.Web

open SheetAudit.Url

/-- How URLs, answers and pages are read; `ε` is what can be wrong with an answer or a page. -/
structure Reader (ε : Type) where
  /-- The URL of a request for a text. -/
  url : List Char → Except UrlError RequestUrl
  /-- Where a redirect leads from a URL, by the URL that its answer names. -/
  redirect : RequestUrl → RequestUrl → Except UrlError RequestUrl
  /-- The text of an answer. -/
  text : Response → Except ε String
  /-- The tags of a page, in order. -/
  tags : List Char → Except ε (List Page.Tag)

/-- The tags of the page that an answer holds. -/
def Reader.pageTags {ε : Type} (reader : Reader ε) (r : Response) : Except ε (List Page.Tag) := do
  reader.tags (← reader.text r).toList

/-- Where a redirect leads from a URL: to a full URL, to one on the same host, or to a place found
by resolving it; the fragment goes along. -/
def redirectTarget (url location : RequestUrl) : Except UrlError RequestUrl := do
  let target ←
    if !location.scheme.isEmpty && location.host.isEmpty then location.withHost url.host
    else pure location
  let target ←
    if target.isAbsolute then pure target
    else do RequestUrl.parse (← join url.toText target.toText)
  let fragment := unescape (url.fragment.getD [])
  if fragment.isEmpty || !(target.fragment.getD []).isEmpty then return target
  else target.withFragment fragment

/-- The reader of the program.  It knows the charsets of `Charset` and takes any other for UTF-8, so
that every answer can be read. -/
def Reader.builtIn : Reader Empty where
  url := RequestUrl.parse
  redirect := redirectTarget
  text r := .ok r.text
  tags cs := .ok (Page.tags cs)

end SheetAudit.Web
