import LogLens.Archive.BitSource
import LogLens.Archive.Buffer
import LogLens.Archive.Gzip
import LogLens.Archive.Inflate
import LogLens.CommandLine.Argument
import LogLens.CommandLine.Invocation
import LogLens.CommandLine.Run
import LogLens.Document
import LogLens.Entry
import LogLens.Failure
import LogLens.FilePath
import LogLens.LogFormat
import LogLens.Main
import LogLens.Prompt
import LogLens.Proofs.Archive.Course
import LogLens.Proofs.Archive.Damage
import LogLens.Proofs.Archive.Position
import LogLens.Proofs.CommandLine.Ending
import LogLens.Proofs.CommandLine.Filter
import LogLens.Proofs.CommandLine.Listings
import LogLens.Proofs.CommandLine.Overview
import LogLens.Proofs.CommandLine.Reading
import LogLens.Proofs.Document.Counts
import LogLens.Proofs.Document.Extraction
import LogLens.Proofs.Document.History
import LogLens.Proofs.Document.Loading
import LogLens.Proofs.Document.Reread
import LogLens.Proofs.Document.Truncation
import LogLens.Proofs.Document.Whole
import LogLens.Proofs.FilePath.Compression
import LogLens.Proofs.Line.Partition
import LogLens.Proofs.Line.Scan
import LogLens.Proofs.LogFormat
import LogLens.Proofs.Prompt
import LogLens.Proofs.Record.Access
import LogLens.Proofs.Record.AccessLine
import LogLens.Proofs.Record.Provenance
import LogLens.Proofs.Record.Severities
import LogLens.Proofs.Record.StructuredLine
import LogLens.Proofs.Record.StructuredSeverity
import LogLens.Proofs.Record.SyslogLine
import LogLens.Proofs.Record.TimestampAgreement
import LogLens.Proofs.Report.EntryFields
import LogLens.Proofs.Report.Paging
import LogLens.Proofs.Report.Problems
import LogLens.Proofs.Report.Requests
import LogLens.Proofs.Resource.Confinement
import LogLens.Proofs.Statistics.Counts
import LogLens.Proofs.Statistics.Joining
import LogLens.Proofs.Text.Casing
import LogLens.Proofs.Text.Decimal
import LogLens.Proofs.Text.Search
import LogLens.Proofs.Text.Utf8
import LogLens.Proofs.Token.Coverage
import LogLens.Proofs.Token.Grammar
import LogLens.Proofs.Token.LineEndings
import LogLens.Proofs.Token.Restart
import LogLens.Proofs.Token.Scan
import LogLens.Record
import LogLens.Report.Request
import LogLens.Resource
import LogLens.Session
import LogLens.Severity
import LogLens.Statistics
import LogLens.Text.Basic
import LogLens.Text.Case
import LogLens.Text.Numeral
import LogLens.Text.Quoted
import LogLens.Text.Utf8
import LogLens.Token
