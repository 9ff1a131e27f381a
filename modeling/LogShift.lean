import LogShift.Batch.Config
import LogShift.Batch.Ingest
import LogShift.Batch.Normalize
import LogShift.Calendar.Date
import LogShift.Calendar.Iso
import LogShift.Calendar.Moment
import LogShift.Command.Error
import LogShift.Command.Line
import LogShift.Command.Report
import LogShift.Command.Run
import LogShift.Embedded
import LogShift.Enrichment
import LogShift.Failure
import LogShift.Files.Basic
import LogShift.Files.Fault
import LogShift.Files.Content
import LogShift.Files.Path
import LogShift.Format
import LogShift.Gzip.Basic
import LogShift.Gzip.Bits
import LogShift.Gzip.Code
import LogShift.Gzip.Inflate
import LogShift.Json
import LogShift.Line.Apache
import LogShift.Line.Fault
import LogShift.Line.Hadoop
import LogShift.Line.Parser
import LogShift.Line.Syslog
import LogShift.Main
import LogShift.Pattern.Basic
import LogShift.Pattern.Reader
import LogShift.Pattern.Search
import LogShift.Record.Basic
import LogShift.Record.Json
import LogShift.Settings.Basic
import LogShift.Settings.Environment
import LogShift.Settings.Load
import LogShift.Settings.Toml
import LogShift.Shift
import LogShift.Signal
import LogShift.Stamp.Basic
import LogShift.Stamp.Reader
import LogShift.Stamp.Search
import LogShift.Text.Basic
import LogShift.Text.Blank
import LogShift.Text.Classes
import LogShift.Text.Decimal
import LogShift.Text.Utf8
import LogShift.Toml.Document
import LogShift.Toml.Quoted
import LogShift.Toml.Reader
import LogShift.Toml.Scalar
import LogShift.Toml.Value
import LogShift.Proofs.Batch.Account
import LogShift.Proofs.Batch.Chronicle
import LogShift.Proofs.Batch.Delivery
import LogShift.Proofs.Batch.Ingest
import LogShift.Proofs.Batch.Normalize
import LogShift.Proofs.Batch.Reparse
import LogShift.Proofs.Batch.Years
import LogShift.Proofs.Calendar.Date
import LogShift.Proofs.Calendar.Moment
import LogShift.Proofs.Calendar.Range
import LogShift.Proofs.Decimal
import LogShift.Proofs.Embedded.Frame
import LogShift.Proofs.Embedded.Header
import LogShift.Proofs.Embedded.Locate
import LogShift.Proofs.Line.Fault
import LogShift.Proofs.Line.Grammar
import LogShift.Proofs.Line.Reread
import LogShift.Proofs.Line.Trim
import LogShift.Proofs.Line.Year
import LogShift.Proofs.Record
import LogShift.Proofs.Stamp.Render
import LogShift.Proofs.Stamp.Search
import LogShift.Proofs.Stamp.Shape
import LogShift.Proofs.Text
import LogShift.Proofs.Batch.Kept
import LogShift.Proofs.Stamp.Place
import LogShift.Proofs.Embedded.Replace
import LogShift.Proofs.Embedded.Standstill
import LogShift.Proofs.Stamp.Apart
import LogShift.Proofs.Embedded.Relocate
import LogShift.Proofs.Embedded.Compose
import LogShift.Proofs.Batch.Settled
import LogShift.Proofs.Batch.Order
import LogShift.Proofs.Json
import LogShift.Proofs.Calendar.Iso
import LogShift.Proofs.Batch.Stored
import LogShift.Proofs.Text.Utf8
import LogShift.Proofs.Files.Basic
import LogShift.Proofs.Files.Lines
import LogShift.Proofs.Files.Sink
import LogShift.Proofs.Settings.Load
import LogShift.Proofs.Batch.Signals
import LogShift.Proofs.Files.Stream
import LogShift.Proofs.Command.Completion
import LogShift.Proofs.Command.Steps
import LogShift.Proofs.Toml.Document
import LogShift.Proofs.Settings.Show
import LogShift.Proofs.Line.Message
import LogShift.Proofs.Embedded.Message
import LogShift.Proofs.Stamp.Spelling
import LogShift.Proofs.Line.Parts
import LogShift.Proofs.Line.Hadoop
import LogShift.Proofs.Line.Apache
import LogShift.Proofs.Line.OpenSsh
import LogShift.Proofs.Line.Linux
import LogShift.Proofs.Line.Path
import LogShift.Proofs.Pattern.Passes
import LogShift.Proofs.Pattern.Search
import LogShift.Proofs.Pattern.Matches
import LogShift.Proofs.Enrichment.Address
import LogShift.Proofs.Enrichment.User
import LogShift.Proofs.Shift
import LogShift.Proofs.Text.Lossy
import LogShift.Proofs.Files.Locality
import LogShift.Proofs.Text.Slice
import LogShift.Proofs.Cursor.Basic
import LogShift.Proofs.Cursor.Stamp
import LogShift.Proofs.Cursor.Search
import LogShift.Proofs.Cursor.Render
import LogShift.Proofs.Cursor.Embedded
import LogShift.Proofs.Cursor.Parts
import LogShift.Proofs.Cursor.Line
import LogShift.Proofs.Command.Completion
