import SheetAudit.Console.Log
import SheetAudit.Page.Sheets
import SheetAudit.Web.Reader

/-!
# Collecting the stylesheets of a page

`fetch` asks for a URL and follows redirects.  `collect` fetches a page; if the answer is itself a
stylesheet it is the only source, otherwise the sources are the sheets inside the page and those
that it links.  A linked sheet that cannot be fetched is left out, with a warning in the log; an
answer that cannot be read ends the collection.  Both work with any reader of URLs, answers and
pages.
-/

namespace SheetAudit.Web

open SheetAudit.Console (LogRecord LogLevel)
open SheetAudit.Text
open SheetAudit.Url
open Stylesheet (Source)

/-- Why a URL could not be fetched. -/
inductive FetchFailure where
  /-- It took too long. -/
  | timeout
  /-- The answer has a status that is not success. -/
  | status (code : Int)
  /-- The request failed. -/
  | failed (message : String)
  deriving DecidableEq, Repr

/-- The reason in words. -/
def FetchFailure.reason : FetchFailure → String
  | .timeout => "Timeout"
  | .status code => s!"HTTP {code}"
  | .failed message => s!"Request failed: {message}"

/-- Why no stylesheets could be collected; `ε` is what can be wrong with an answer or a page. -/
inductive CollectionError (ε : Type) where
  /-- The page could not be fetched. -/
  | fetch (page : String) (failure : FetchFailure)
  /-- A URL cannot be asked for. -/
  | url (e : UrlError)
  /-- An answer or a page cannot be read. -/
  | content (e : ε)
  deriving DecidableEq, Repr

/-- What an error says. -/
def CollectionError.message {ε : Type} [ToString ε] : CollectionError ε → String
  | .fetch page failure => s!"{failure.reason} ({page})"
  | .url e => e.message
  | .content e => toString e

/-- Nothing is there to be shown. -/
instance emptyToString : ToString Empty where
  toString := nofun

/-- Why no stylesheets could be collected, where every answer can be read. -/
abbrev CollectError := CollectionError Empty

/-- What comes of asking for a URL: an answer with the URL that gave it, a failure, or a URL that
cannot be asked for. -/
inductive Answer where
  /-- An answer and where it came from. -/
  | response (url : RequestUrl) (r : Response)
  /-- No usable answer. -/
  | failure (f : FetchFailure)
  /-- A URL that cannot be asked for. -/
  | refused (e : UrlError)

/-- The number of redirects that are followed. -/
def maxRedirects : Nat := 20

/-- The record of a request and the status of its answer. -/
def requestRecord (url : RequestUrl) (r : Response) : LogRecord :=
  { level := .info,
    message := s!"HTTP Request: GET {String.ofList url.toText} " ++
      s!"\"HTTP/1.1 {r.status} {reasonPhrase r.status}\"" }

/-- The text of a URL without scheme, as a complaint about it shows it. -/
def shownWithoutScheme (url : RequestUrl) : String :=
  let fragment := url.fragment.bind fun f => if f.isEmpty then none else some f
  String.ofList ({ url with fragment : RequestUrl }).toText

/-- Whether an answer is a stylesheet: by its content type, or by the path of its URL. -/
def isSheetResponse (contentType : Option String) (url : RequestUrl) : Except UrlError Bool :=
  if occurs "text/css".toList (contentType.getD "").toList then .ok true
  else (Reference.parse [] url.toText).map fun r => ".css".toList.isSuffixOf r.path

/-- What was collected from a page, and the log of it. -/
structure Collection (ε : Type) where
  /-- The sources, or why there are none. -/
  outcome : Except (CollectionError ε) (List Source)
  /-- The records, in order. -/
  log : List LogRecord

/-- The warning about a linked sheet that is left out. -/
def skipRecord (href : String) (failure : FetchFailure) : LogRecord :=
  { level := .warning, message := s!"Skipping stylesheet {href}: {failure.reason}" }

namespace Reader

variable {ε : Type} (reader : Reader ε) (web : Transport)

/-- Asks for a URL and follows up to `redirects` redirects; `log` holds the records so far, last one
first. -/
def follow (redirects : Nat) (log : List LogRecord) (url : RequestUrl) : Answer × List LogRecord :=
  match web (String.ofList url.toText) with
  | .error .timeout => (.failure .timeout, log)
  | .error (.failed message) => (.failure (.failed message), log)
  | .ok r =>
    -- the answer to a URL without scheme cannot be taken in
    if url.scheme.isEmpty then (.refused (.unknownType (shownWithoutScheme url)), log)
    else
      let log := requestRecord url r :: log
      match r.redirect? with
      | none => if r.isSuccess then (.response url r, log) else (.failure (.status r.status), log)
      | some location =>
        match reader.url location.toList with
        | .error e => (.failure (.failed s!"Invalid URL in location header: {e.message}."), log)
        | .ok location =>
          match reader.redirect url location with
          | .error e => (.refused e, log)
          | .ok target =>
            -- the limit counts only once there is somewhere to go
            match redirects with
            | 0 => (.failure (.failed "Exceeded maximum allowed redirects."), log)
            | redirects + 1 => follow redirects log target

/-- Asks for a URL given by its text; the records are in order. -/
def fetch (url : String) : Answer × List LogRecord :=
  match reader.url url.toList with
  | .error e => (.refused e, [])
  | .ok parsed =>
    let (answer, log) := reader.follow web maxRedirects [] parsed.rooted
    match answer with
    | .response final r =>
      let record : LogRecord :=
        { level := .debug,
          message := s!"Fetched {String.ofList final.toText} ({r.body.size} bytes)" }
      (answer, (record :: log).reverse)
    | _ => (answer, log.reverse)

/-- Fetches linked sheets one after the other; `sources` and `log` hold what was collected, last one
first. -/
def collectLinks (page : String) (sources : List Source) (log : List LogRecord) :
    List String → Collection ε
  | [] => ⟨.ok sources.reverse, log.reverse⟩
  | href :: rest =>
    match resolveLink href page with
    | .error e => ⟨.error (.url e), log.reverse⟩
    | .ok url =>
      match reader.fetch web url with
      | (.response _ r, records) =>
        -- only a failure to fetch is made up for, not one to read what was fetched
        match reader.text r with
        | .ok content =>
          collectLinks page (⟨href, content⟩ :: sources) (records.reverse ++ log) rest
        | .error e => ⟨.error (.content e), (records.reverse ++ log).reverse⟩
      | (.failure f, records) =>
        collectLinks page sources (skipRecord href f :: records.reverse ++ log) rest
      | (.refused e, records) => ⟨.error (.url e), (records.reverse ++ log).reverse⟩

/-- The stylesheets of the page at a URL. -/
def collect (text : String) : Collection ε :=
  let url := withScheme text
  match reader.fetch web url with
  | (.failure f, log) => ⟨.error (.fetch url f), log⟩
  | (.refused e, log) => ⟨.error (.url e), log⟩
  | (.response final r, log) =>
    match isSheetResponse (r.header? "content-type") final with
    | .error e => ⟨.error (.url e), log⟩
    | .ok true =>
      match reader.text r with
      | .ok content => ⟨.ok [⟨url, content⟩], log⟩
      | .error e => ⟨.error (.content e), log⟩
    | .ok false =>
      match reader.pageTags r with
      | .ok tags =>
        reader.collectLinks web (String.ofList final.toText) (Page.inlineSheets tags).reverse
          log.reverse (Page.sheetTargets tags)
      | .error e => ⟨.error (.content e), log⟩

end Reader

/-- The stylesheets of the page at a URL, with the reader of the program. -/
def collect (web : Transport) (text : String) : Collection Empty :=
  Reader.builtIn.collect web text

end SheetAudit.Web
