import LineCensus.Census.Basic
import LineCensus.Census.Breakdown
import LineCensus.Comment.Builtin
import LineCensus.Comment.Classifier
import LineCensus.Comment.Grammar
import LineCensus.Comment.Registry
import LineCensus.Count
import LineCensus.Event
import LineCensus.Failure
import LineCensus.FileTree.Edit
import LineCensus.FileTree.Listing
import LineCensus.FileTree.Resolve
import LineCensus.Ignore.Binary
import LineCensus.Ignore.Filter
import LineCensus.Ignore.NameSet
import LineCensus.Ignore.Rules
import LineCensus.LogFilter
import LineCensus.Main
import LineCensus.Options.Basic
import LineCensus.Options.CommandLine
import LineCensus.Path
import LineCensus.Pattern
import LineCensus.Pattern.Bracket
import LineCensus.Pattern.CharSet
import LineCensus.Pattern.Escape
import LineCensus.Pattern.Fault
import LineCensus.Pattern.Flags
import LineCensus.Pattern.Node
import LineCensus.Pattern.Reader
import LineCensus.Pattern.Search
import LineCensus.Pattern.Weight
import LineCensus.Program
import LineCensus.Report.Grouped
import LineCensus.Report.Json
import LineCensus.Report.Label
import LineCensus.Report.Table
import LineCensus.Scan
import LineCensus.Settings
import LineCensus.Text.Lines
import LineCensus.Text.Trim
import LineCensus.Text.Utf8
import LineCensus.Toml.Document
import LineCensus.Toml.Scalar
import LineCensus.Toml.Text
import LineCensus.Toml.Tree
import LineCensus.Toml.Value
import LineCensus.Unicode.Blank
import LineCensus.Unicode.CaseFold
import LineCensus.Unicode.Category
import LineCensus.Unicode.Property
import LineCensus.Unicode.RunTable
import LineCensus.Unicode.Script
import LineCensus.Unicode.Word
import LineCensus.Proofs.Census.Absolute
import LineCensus.Proofs.Census.Balance
import LineCensus.Proofs.Census.BlankLines
import LineCensus.Proofs.Census.Count
import LineCensus.Proofs.Census.Excluded
import LineCensus.Proofs.Census.Hidden
import LineCensus.Proofs.Census.LineEnds
import LineCensus.Proofs.Census.Log
import LineCensus.Proofs.Census.Merge
import LineCensus.Proofs.Census.Order
import LineCensus.Proofs.Census.Partition
import LineCensus.Proofs.Census.Record
import LineCensus.Proofs.Census.Shrinking
import LineCensus.Proofs.Census.Subdirectory
import LineCensus.Proofs.Comment.Block
import LineCensus.Proofs.Comment.Delimiter
import LineCensus.Proofs.Comment.Owner
import LineCensus.Proofs.Comment.Run
import LineCensus.Proofs.Comment.Table
import LineCensus.Proofs.FileTree.Idle
import LineCensus.Proofs.FileTree.Lookup
import LineCensus.Proofs.FileTree.Resolve
import LineCensus.Proofs.FileTree.Standing
import LineCensus.Proofs.FileTree.Way
import LineCensus.Proofs.Ignore.Additions
import LineCensus.Proofs.Ignore.ByName
import LineCensus.Proofs.Ignore.History
import LineCensus.Proofs.Ignore.Layers
import LineCensus.Proofs.Ignore.Suffix
import LineCensus.Proofs.Options.Spelled
import LineCensus.Proofs.Options.Switch
import LineCensus.Proofs.Path.Extension
import LineCensus.Proofs.Path.FileName
import LineCensus.Proofs.Path.Pieces
import LineCensus.Proofs.Path.Split
import LineCensus.Proofs.Pattern.Closure
import LineCensus.Proofs.Pattern.Compile
import LineCensus.Proofs.Pattern.Literal
import LineCensus.Proofs.Pattern.Match
import LineCensus.Proofs.Pattern.Search
import LineCensus.Proofs.Pattern.Sequence
import LineCensus.Proofs.Program.LogFilter
import LineCensus.Proofs.Program.Process
import LineCensus.Proofs.Report.Color
import LineCensus.Proofs.Report.Grouped
import LineCensus.Proofs.Report.Layout
import LineCensus.Proofs.Report.Lossless
import LineCensus.Proofs.Report.Reader
import LineCensus.Proofs.Report.RoundTrip
import LineCensus.Proofs.Report.Spelling
import LineCensus.Proofs.Scan.Found
import LineCensus.Proofs.Scan.Pruning
import LineCensus.Proofs.Scan.Read
import LineCensus.Proofs.Scan.Root
import LineCensus.Proofs.Scan.Skipped
import LineCensus.Proofs.Scan.Visible
import LineCensus.Proofs.Settings.RoundTrip
import LineCensus.Proofs.Text.Ascii
import LineCensus.Proofs.Text.Decode
import LineCensus.Proofs.Text.Encode
import LineCensus.Proofs.Text.Lines
import LineCensus.Proofs.Text.Order
import LineCensus.Proofs.Text.Trim
import LineCensus.Proofs.Toml.Document
import LineCensus.Proofs.Toml.Lines
import LineCensus.Proofs.Toml.Local
import LineCensus.Proofs.Toml.Spelled
import LineCensus.Proofs.Toml.Strings
import LineCensus.Proofs.Toml.Values
import LineCensus.Proofs.Toml.Written
