import SheetAudit.Main
import SheetAudit.Proofs.Bundling
import SheetAudit.Proofs.Lines
import SheetAudit.Proofs.Printing
import SheetAudit.Proofs.AtRules
import SheetAudit.Proofs.Trace
import SheetAudit.Proofs.Attribution
import SheetAudit.Proofs.Collecting
import SheetAudit.Proofs.SheetOrder
import SheetAudit.Proofs.Patterns
import SheetAudit.Proofs.SelectorSyntax
import SheetAudit.Proofs.SelectorWeight
import SheetAudit.Proofs.SelectorSums
import SheetAudit.Proofs.IssueCounts
import SheetAudit.Proofs.FileSizes
import SheetAudit.Proofs.Tags
import SheetAudit.Proofs.Rounding
import SheetAudit.Proofs.Scoring
import SheetAudit.Proofs.Decoding
import SheetAudit.Proofs.Rendering
import SheetAudit.Proofs.Showing
import SheetAudit.Proofs.CommandLines
import SheetAudit.Proofs.ExitCodes
import SheetAudit.Proofs.NumberOrder
import SheetAudit.Proofs.ScoreRange
import SheetAudit.Proofs.Repetition
import SheetAudit.Proofs.SelectorDepth
import SheetAudit.Proofs.SelectorStart
import SheetAudit.Proofs.ScoreOrder
import SheetAudit.Proofs.NumberError
import SheetAudit.Proofs.ScoreAccuracy
import SheetAudit.Proofs.TreeListing
import SheetAudit.Proofs.CommentLayout
import SheetAudit.Proofs.PageSheets
import SheetAudit.Proofs.DirectLinks
import SheetAudit.Proofs.Links
import SheetAudit.Proofs.MarkupText
import SheetAudit.Proofs.FileLines
import SheetAudit.Proofs.DeclarationKeys
import SheetAudit.Proofs.ReportJson
import SheetAudit.Proofs.Amounts
