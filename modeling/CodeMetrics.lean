import CodeMetrics.Text.Basic
import CodeMetrics.Text.Lowercase
import CodeMetrics.Text.Uppercase
import CodeMetrics.Text.Alphabetic
import CodeMetrics.Text.Number
import CodeMetrics.Text.WordChar
import CodeMetrics.Text.LowerShift
import CodeMetrics.Text.LowerForm
import CodeMetrics.Measures
import CodeMetrics.Metric
import CodeMetrics.Entity
import CodeMetrics.Pattern.Basic
import CodeMetrics.Pattern.Notation
import CodeMetrics.Recognition.Detector
import CodeMetrics.Recognition.Recognizer
import CodeMetrics.Source.Region
import CodeMetrics.Source.Line
import CodeMetrics.Source.Basic
import CodeMetrics.Path
import CodeMetrics.Language
import CodeMetrics.Graph.Basic
import CodeMetrics.Graph.Indexed
import CodeMetrics.Graph.Cycle
import CodeMetrics.Index.Basic
import CodeMetrics.Index.Walk
import CodeMetrics.Index.Query
import CodeMetrics.Index.Decoration
import CodeMetrics.Model
import CodeMetrics.Scan.Progress
import CodeMetrics.Scan.CancelFlag
import CodeMetrics.Scan.Visitor
import CodeMetrics.Scan.Scanner
import CodeMetrics.Decimal.Basic
import CodeMetrics.Decimal.Shortest
import CodeMetrics.Decimal.Read
import CodeMetrics.Files.Volume
import CodeMetrics.Files.Glob
import CodeMetrics.Files.IgnoreRule
import CodeMetrics.Toml.Item
import CodeMetrics.Toml.Text
import CodeMetrics.Toml.Scalar
import CodeMetrics.Toml.Document
import CodeMetrics.Settings
import CodeMetrics.Files.SourceTree
import CodeMetrics.Command.Arguments
import CodeMetrics.Command.Report
import CodeMetrics.Command.Run
import CodeMetrics.Command.JsonValue
import CodeMetrics.Command.ReportJson
import CodeMetrics.Main
import CodeMetrics.Proofs.Index.Lookup
import CodeMetrics.Proofs.Index.Tree
import CodeMetrics.Proofs.Index.Walks
import CodeMetrics.Proofs.Index.Preservation
import CodeMetrics.Proofs.Index.Run
import CodeMetrics.Proofs.Index.Rounds
import CodeMetrics.Proofs.Index.Totals
import CodeMetrics.Proofs.Metric.Inputs
import CodeMetrics.Proofs.Index.Choice
import CodeMetrics.Proofs.Graph.Anchored
import CodeMetrics.Proofs.Graph.History
import CodeMetrics.Proofs.Graph.Indexed
import CodeMetrics.Proofs.Graph.Participants
import CodeMetrics.Proofs.Graph.Reachability
import CodeMetrics.Proofs.Graph.Cycles
import CodeMetrics.Proofs.Model.Integrity
import CodeMetrics.Proofs.Model.Cascade
import CodeMetrics.Proofs.Text.Segment
import CodeMetrics.Proofs.Text.Blank
import CodeMetrics.Proofs.Pattern.Matching
import CodeMetrics.Proofs.Recognition.Margins
import CodeMetrics.Proofs.Recognition.Keywords
import CodeMetrics.Proofs.Source.Lexer
import CodeMetrics.Proofs.Source.Progress
import CodeMetrics.Proofs.Source.Refinement
import CodeMetrics.Proofs.Source.Decisions
import CodeMetrics.Proofs.Source.Step
import CodeMetrics.Proofs.Source.Locality
import CodeMetrics.Proofs.Source.Closing
import CodeMetrics.Proofs.Source.Judgement
import CodeMetrics.Proofs.Source.Overlap
import CodeMetrics.Proofs.Source.Opening
import CodeMetrics.Proofs.Source.Seams
import CodeMetrics.Proofs.Source.Comments
import CodeMetrics.Proofs.Source.EmptyComments
import CodeMetrics.Proofs.Scan.Calls
import CodeMetrics.Proofs.Scan.Passage
import CodeMetrics.Proofs.Scan.Protocol
import CodeMetrics.Proofs.Scan.Interruption
import CodeMetrics.Proofs.Scan.SharedFlag
import CodeMetrics.Proofs.Index.Freshness
import CodeMetrics.Proofs.Index.Identifiers
import CodeMetrics.Proofs.Index.Portrait
import CodeMetrics.Proofs.Scan.FileEntry
import CodeMetrics.Proofs.Scan.Refusal
import CodeMetrics.Proofs.Scan.Survey
import CodeMetrics.Proofs.Scan.Rescan
