import SiteConf.Check
import SiteConf.Cli.Run
import SiteConf.Data.Json
import SiteConf.Data.Json.Reader
import SiteConf.Directive.Statement
import SiteConf.Import.Site
import SiteConf.Lint.Catalog
import SiteConf.Lint.Explanation
import SiteConf.Lint.Fix
import SiteConf.Lint.Report
import SiteConf.Main
import SiteConf.Proofs.Lexemes
import SiteConf.Proofs.Spelling
import SiteConf.Render.Server
import SiteConf.Report.Lint
import SiteConf.Site.Edit
import SiteConf.Text.Decimal
import SiteConf.Proofs.RoundTrip
import SiteConf.Proofs.JsonText
import SiteConf.Proofs.Signature
import SiteConf.Proofs.Fixpoint
import SiteConf.Proofs.Legible
import SiteConf.Proofs.Lineless
import SiteConf.Proofs.Written
import SiteConf.Proofs.Reading
import SiteConf.Proofs.Rereading
import SiteConf.Proofs.Placing
import SiteConf.Proofs.Imported
import SiteConf.Proofs.Plain
import SiteConf.Proofs.Regenerated
import SiteConf.Proofs.Stable
import SiteConf.Proofs.Bounds
import SiteConf.Proofs.Kept
import SiteConf.Proofs.Sound
import SiteConf.Proofs.Normal
import SiteConf.Proofs.Accepted
import SiteConf.Proofs.Canonical
import SiteConf.Proofs.Encoded
import SiteConf.Proofs.Importable
import SiteConf.Proofs.Letters
import SiteConf.Proofs.Preserved
import SiteConf.Proofs.Spans
import SiteConf.Proofs.Shape
import SiteConf.Proofs.Described
import SiteConf.Proofs.Clean
import SiteConf.Proofs.Protection
import SiteConf.Proofs.Unfailing
import SiteConf.Proofs.Protected
import SiteConf.Proofs.Trace
import SiteConf.Proofs.Braces
import SiteConf.Proofs.Fixable
import SiteConf.Proofs.Caching
import SiteConf.Proofs.Quoting
import SiteConf.Proofs.Verdict
import SiteConf.Proofs.Pools
import SiteConf.Proofs.Recovery
import SiteConf.Proofs.Reports
import SiteConf.Proofs.Patched
import SiteConf.Proofs.Sections
import SiteConf.Proofs.Parts
import SiteConf.Proofs.Merged
import SiteConf.Proofs.Comments
import SiteConf.Proofs.Layout
import SiteConf.Proofs.Dropped
import SiteConf.Proofs.Ciphers
import SiteConf.Proofs.Segments
import SiteConf.Proofs.Untouched
import SiteConf.Proofs.Listening
import SiteConf.Proofs.Interleaved
import SiteConf.Proofs.Claimed
import SiteConf.Proofs.Kilobytes
import SiteConf.Proofs.Agreement
import SiteConf.Proofs.Usable
import SiteConf.Proofs.Places
import SiteConf.Proofs.Updates
import SiteConf.Proofs.LineByLine
