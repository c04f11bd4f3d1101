import HistorySurvey.Assembly.Basic
import HistorySurvey.Assembly.Measuring
import HistorySurvey.Assembly.Shelf
import HistorySurvey.Binary64.Basic
import HistorySurvey.Binary64.Decimal
import HistorySurvey.Binary64.Reading
import HistorySurvey.Command.Arguments
import HistorySurvey.Command.Rules
import HistorySurvey.Command.Run
import HistorySurvey.Concern.Metric
import HistorySurvey.Concern.Scale
import HistorySurvey.Count
import HistorySurvey.Deflate.Block
import HistorySurvey.Deflate.Code
import HistorySurvey.Error
import HistorySurvey.Git.Bytes
import HistorySurvey.Git.Directory
import HistorySurvey.Git.Object
import HistorySurvey.Git.Repository
import HistorySurvey.Git.Walk
import HistorySurvey.Json.Basic
import HistorySurvey.Json.Printer
import HistorySurvey.Object.Basic
import HistorySurvey.Object.Id
import HistorySurvey.Object.Kind
import HistorySurvey.Object.Measure
import HistorySurvey.Object.Name
import HistorySurvey.Progress
import HistorySurvey.Proofs.Account
import HistorySurvey.Proofs.Arrival
import HistorySurvey.Proofs.Balance
import HistorySurvey.Proofs.Completion
import HistorySurvey.Proofs.Dependency
import HistorySurvey.Proofs.Exact
import HistorySurvey.Proofs.Failure
import HistorySurvey.Proofs.Hinting
import HistorySurvey.Proofs.Interruption
import HistorySurvey.Proofs.Journal
import HistorySurvey.Proofs.Occurrences
import HistorySurvey.Proofs.Offender
import HistorySurvey.Proofs.Overflow
import HistorySurvey.Proofs.Recursion
import HistorySurvey.Proofs.Reference
import HistorySurvey.Proofs.Release
import HistorySurvey.Proofs.Shelving
import HistorySurvey.Proofs.Standings
import HistorySurvey.Proofs.Totals
import HistorySurvey.Ranking
import HistorySurvey.References.Filter
import HistorySurvey.References.Group
import HistorySurvey.References.Name
import HistorySurvey.References.Pattern
import HistorySurvey.Regex.Basic
import HistorySurvey.Regex.Class
import HistorySurvey.Regex.Database
import HistorySurvey.Regex.Expression
import HistorySurvey.Regex.Meaning
import HistorySurvey.Regex.Reader
import HistorySurvey.Regex.Size
import HistorySurvey.Report.Amount
import HistorySurvey.Report.Figures
import HistorySurvey.Report.Layout
import HistorySurvey.Report.Options
import HistorySurvey.Report.Outline
import HistorySurvey.Report.Rating
import HistorySurvey.Report.Rows
import HistorySurvey.Report.Table
import HistorySurvey.Stream
import HistorySurvey.Summary
import HistorySurvey.Survey
import HistorySurvey.Text.Blank
import HistorySurvey.Text.Natural
import HistorySurvey.Text.Quoted
import HistorySurvey.Text.Utf8
import HistorySurvey.Unicode.Age
import HistorySurvey.Unicode.Break
import HistorySurvey.Unicode.CaseFolding
import HistorySurvey.Unicode.Category
import HistorySurvey.Unicode.CharSet
import HistorySurvey.Unicode.Property
import HistorySurvey.Unicode.Script
import HistorySurvey.Main
import HistorySurvey.Proofs.Diagnosis
import HistorySurvey.Proofs.Disclosure
import HistorySurvey.Proofs.Forgetting
import HistorySurvey.Proofs.Reach
import HistorySurvey.Proofs.Walking
import HistorySurvey.Proofs.Exploration
import HistorySurvey.Proofs.CommandLine
import HistorySurvey.Proofs.Precedence
import HistorySurvey.Proofs.StoredKind
import HistorySurvey.Proofs.NamelessSurvey
import HistorySurvey.Proofs.NamelessWalk
import HistorySurvey.Proofs.Agreement
import HistorySurvey.Proofs.Board
import HistorySurvey.Proofs.Lineage
import HistorySurvey.Proofs.Expansion
import HistorySurvey.Proofs.Matching
import HistorySurvey.Proofs.Anchoring
import HistorySurvey.Proofs.EntryPath
import HistorySurvey.Proofs.RevisionSteps
import HistorySurvey.Proofs.Rounding
import HistorySurvey.Proofs.Severity
import HistorySurvey.Proofs.Keeping
import HistorySurvey.Proofs.Footnotes
import HistorySurvey.Proofs.JsonText
import HistorySurvey.Proofs.JsonReader
import HistorySurvey.Proofs.Lossless
import HistorySurvey.Proofs.Independence
import HistorySurvey.Proofs.Merging
import HistorySurvey.Proofs.Grouping
import HistorySurvey.Proofs.Bookkeeping
import HistorySurvey.Proofs.Amounts
import HistorySurvey.Proofs.Alignment
