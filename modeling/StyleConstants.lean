import StyleConstants.Cache
import StyleConstants.Case.Naming
import StyleConstants.Case.Style
import StyleConstants.Case.Words
import StyleConstants.Closure
import StyleConstants.Decimal.Shortest
import StyleConstants.Dialect
import StyleConstants.Display
import StyleConstants.Engine
import StyleConstants.Failure
import StyleConstants.Files.Linked
import StyleConstants.Files.Memory
import StyleConstants.Files.System
import StyleConstants.Import
import StyleConstants.Import.Json
import StyleConstants.Json.Decode
import StyleConstants.Json.Number
import StyleConstants.Json.Reader
import StyleConstants.Json.Token
import StyleConstants.Json.Value
import StyleConstants.Json.Writer
import StyleConstants.Options
import StyleConstants.Path.Basic
import StyleConstants.Path.Normal
import StyleConstants.Probe.Marker
import StyleConstants.Probe.Query
import StyleConstants.Probe.Readback
import StyleConstants.Probe.Sheet
import StyleConstants.Source
import StyleConstants.Stylesheet.Braced
import StyleConstants.Stylesheet.Fault
import StyleConstants.Stylesheet.Import
import StyleConstants.Stylesheet.Indented
import StyleConstants.Stylesheet.Lexeme
import StyleConstants.Stylesheet.Name
import StyleConstants.Stylesheet.Node
import StyleConstants.Stylesheet.Parse
import StyleConstants.Stylesheet.Statement
import StyleConstants.Text.Blank
import StyleConstants.Text.Bounded
import StyleConstants.Text.Hex
import StyleConstants.Text.Lines
import StyleConstants.Text.Quoted
import StyleConstants.Text.Search
import StyleConstants.Text.Split
import StyleConstants.Text.Utf8
import StyleConstants.Unicode.Alphanumeric
import StyleConstants.Unicode.Boundaries
import StyleConstants.Unicode.CaseMap
import StyleConstants.Unicode.Cased
import StyleConstants.Unicode.Visible
import StyleConstants.Proofs.Engine.Growth
import StyleConstants.Proofs.Path.Components
import StyleConstants.Proofs.Path.Route
import StyleConstants.Proofs.Source.Spelling
import StyleConstants.Proofs.Closure.Reachable
import StyleConstants.Proofs.Stylesheet.Balanced
import StyleConstants.Proofs.Stylesheet.Skipped
import StyleConstants.Proofs.Stylesheet.Flags
import StyleConstants.Proofs.Stylesheet.Written
import StyleConstants.Proofs.Stylesheet.ReadBack
import StyleConstants.Proofs.Probe.Occurrences
import StyleConstants.Proofs.Probe.Counted
import StyleConstants.Proofs.Probe.Rendered
import StyleConstants.Proofs.Stylesheet.Origin
import StyleConstants.Proofs.Stylesheet.Escaped
import StyleConstants.Proofs.Probe.Sheet
import StyleConstants.Proofs.Engine.Submission
import StyleConstants.Proofs.Engine.Economy
import StyleConstants.Proofs.Probe.Answered
import StyleConstants.Proofs.Engine.Completeness
import StyleConstants.Proofs.Engine.Evaluated
import StyleConstants.Proofs.Engine.Settled
import StyleConstants.Proofs.Engine.Order
import StyleConstants.Proofs.Engine.Failed
import StyleConstants.Proofs.Stylesheet.Extended
import StyleConstants.Proofs.Stylesheet.Shifted
import StyleConstants.Proofs.Text.Lines
import StyleConstants.Proofs.Stylesheet.LineByLine
import StyleConstants.Proofs.Stylesheet.Composed
import StyleConstants.Proofs.Stylesheet.Dialects
import StyleConstants.Proofs.Engine.Ascribed
import StyleConstants.Proofs.Engine.Mismatch
import StyleConstants.Proofs.Engine.Planned
import StyleConstants.Proofs.Closure.Visits
import StyleConstants.Proofs.Closure.Repeated
import StyleConstants.Proofs.Engine.Spelling
import StyleConstants.Proofs.Engine.Stylesheets
import StyleConstants.Proofs.Engine.Requestable
import StyleConstants.Proofs.Text.Letters
import StyleConstants.Proofs.Case.Words
import StyleConstants.Proofs.Case.Styles
import StyleConstants.Proofs.Case.Inverse
import StyleConstants.Proofs.Engine.RoundTrip
import StyleConstants.Proofs.Probe.Swallowed
import StyleConstants.Proofs.Stylesheet.Enclosed
import StyleConstants.Proofs.Source.Probing
import StyleConstants.Proofs.Engine.Located
import StyleConstants.Proofs.Path.Canonical
import StyleConstants.Proofs.Path.Ancestors
import StyleConstants.Proofs.Files.Memory
import StyleConstants.Proofs.Text.Distinct
import StyleConstants.Proofs.Cache.History
import StyleConstants.Proofs.Case.Boundaries
import StyleConstants.Proofs.Stylesheet.Imports
import StyleConstants.Proofs.Stylesheet.Positions
import StyleConstants.Proofs.Json.RoundTrip
import StyleConstants.Proofs.Stylesheet.Cursor.Progress
