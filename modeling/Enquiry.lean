import Enquiry.Assignment
import Enquiry.Calendar
import Enquiry.CommandLine.Arguments
import Enquiry.CommandLine.Run
import Enquiry.Engine.Executor
import Enquiry.Engine.Hosted
import Enquiry.Engine.Process
import Enquiry.Engine.Supervision
import Enquiry.Environment
import Enquiry.Failure
import Enquiry.Host.Accounts
import Enquiry.Host.Call
import Enquiry.Host.Console
import Enquiry.Host.Errno
import Enquiry.Host.FileCalls
import Enquiry.Host.Files
import Enquiry.Host.Octets
import Enquiry.Host.Program
import Enquiry.Host.Schedule
import Enquiry.Host.World
import Enquiry.Host.Signal
import Enquiry.Json.Printer
import Enquiry.Json.Reader
import Enquiry.Json.Value
import Enquiry.Json.Written
import Enquiry.Locator
import Enquiry.Main
import Enquiry.Number.Binary64
import Enquiry.Number.Extended
import Enquiry.Number.Notation
import Enquiry.Number.Word
import Enquiry.Pattern
import Enquiry.Query.Compile
import Enquiry.Question.Classify
import Enquiry.Question.Field
import Enquiry.Question.Intent
import Enquiry.Question.Keyword
import Enquiry.Record.Lines
import Enquiry.Record.ResultSet
import Enquiry.Record.Schema
import Enquiry.Record.Table
import Enquiry.Regex.Basic
import Enquiry.Regex.Machine
import Enquiry.Regex.Reader
import Enquiry.Regex.Search
import Enquiry.Service.Basic
import Enquiry.Service.Response
import Enquiry.Settings.Basic
import Enquiry.Settings.Layers
import Enquiry.Settings.Value
import Enquiry.Shell.Arithmetic
import Enquiry.Shell.Builtin.Basic
import Enquiry.Shell.Builtin.Flow
import Enquiry.Shell.Builtin.Lookup
import Enquiry.Shell.Builtin.Names
import Enquiry.Shell.Builtin.Output
import Enquiry.Shell.Builtin.Places
import Enquiry.Shell.Builtin.Settings
import Enquiry.Shell.Builtin.Watching
import Enquiry.Shell.Command
import Enquiry.Shell.Condition
import Enquiry.Shell.Draft
import Enquiry.Shell.Evaluation
import Enquiry.Shell.Evaluator
import Enquiry.Shell.Expansion
import Enquiry.Shell.Field
import Enquiry.Shell.Format
import Enquiry.Shell.Jobs
import Enquiry.Shell.Pattern
import Enquiry.Shell.Redirection
import Enquiry.Shell.ScriptReader
import Enquiry.Shell.Session
import Enquiry.Shell.Source
import Enquiry.Shell.State
import Enquiry.Shell.WordReader
import Enquiry.Software
import Enquiry.SortedMap
import Enquiry.Store.Basic
import Enquiry.Text.Blank
import Enquiry.Text.Case
import Enquiry.Text.Digit
import Enquiry.Text.Integer
import Enquiry.Text.Ranges
import Enquiry.Text.Layout
import Enquiry.Text.Name
import Enquiry.Text.Quoted
import Enquiry.Text.Search
import Enquiry.Text.Utf8
import Enquiry.Text.Word
import Enquiry.Toml.Document
import Enquiry.Toml.Scalar
import Enquiry.Tool.Awk.Evaluator
import Enquiry.Tool.Awk.Machine
import Enquiry.Tool.Awk.Reader
import Enquiry.Tool.Awk.Rule
import Enquiry.Tool.Awk.Run
import Enquiry.Tool.Awk.Stream
import Enquiry.Tool.Awk.Table
import Enquiry.Tool.Awk.Token
import Enquiry.Tool.Awk.Value
import Enquiry.Tool.Basic
import Enquiry.Tool.Bytes
import Enquiry.Tool.Characters
import Enquiry.Tool.Copying
import Enquiry.Tool.Counting
import Enquiry.Tool.Difference
import Enquiry.Tool.Extent
import Enquiry.Tool.Facts
import Enquiry.Tool.Flags
import Enquiry.Tool.Grep
import Enquiry.Tool.Inlet
import Enquiry.Tool.Launching
import Enquiry.Tool.Lines
import Enquiry.Tool.Listing
import Enquiry.Tool.Moment
import Enquiry.Tool.Names
import Enquiry.Tool.Order
import Enquiry.Tool.Places
import Enquiry.Tool.Script.Arithmetic
import Enquiry.Tool.Script.Calling
import Enquiry.Tool.Script.Evaluator
import Enquiry.Tool.Script.Exchange
import Enquiry.Tool.Script.Feature
import Enquiry.Tool.Script.Filling
import Enquiry.Tool.Script.Library
import Enquiry.Tool.Script.Likeness
import Enquiry.Tool.Script.Machine
import Enquiry.Tool.Script.Making
import Enquiry.Tool.Script.Method
import Enquiry.Tool.Script.Reader
import Enquiry.Tool.Script.Row
import Enquiry.Tool.Script.Run
import Enquiry.Tool.Script.Stream
import Enquiry.Tool.Script.Token
import Enquiry.Tool.Script.Trace
import Enquiry.Tool.Script.Tree
import Enquiry.Tool.Script.Value
import Enquiry.Tool.Script.Wording
import Enquiry.Tool.Script.Written
import Enquiry.Tool.Sed.Command
import Enquiry.Tool.Sed.Editor
import Enquiry.Tool.Sed.Reader
import Enquiry.Tool.Sums
import Enquiry.Tool.Values
import Enquiry.Wire.Decoder
import Enquiry.Wire.Question
import Enquiry.Wire.Record
import Enquiry.Wire.Service
import Enquiry.Proofs.Calendar
import Enquiry.Proofs.Engine.Outcome
import Enquiry.Proofs.Engine.Reading
import Enquiry.Proofs.Engine.Supervision
import Enquiry.Proofs.Json.Numbers
import Enquiry.Proofs.Json.RoundTrip
import Enquiry.Proofs.Json.Scalars
import Enquiry.Proofs.Pattern.Backtracking
import Enquiry.Proofs.Pattern.Language
import Enquiry.Proofs.Query.Dependence
import Enquiry.Proofs.Query.Pipeline
import Enquiry.Proofs.Query.Priority
import Enquiry.Proofs.Query.Rendering
import Enquiry.Proofs.Question.Classification
import Enquiry.Proofs.Question.FieldName
import Enquiry.Proofs.Record.Survey
import Enquiry.Proofs.Record.Truncation
import Enquiry.Proofs.Record.Writing
import Enquiry.Proofs.Service.Answer
import Enquiry.Proofs.Service.Exploration
import Enquiry.Proofs.SortedMap
import Enquiry.Proofs.Store.Listing
import Enquiry.Proofs.Text.Case
import Enquiry.Proofs.Text.Digits
import Enquiry.Proofs.Text.Splitting
import Enquiry.Proofs.Text.Utf8
import Enquiry.Proofs.Wire.Analysis
import Enquiry.Proofs.Wire.Decoder
import Enquiry.Proofs.Query.Recognition
import Enquiry.Proofs.Wire.Service
import Enquiry.Proofs.Settings.Layering
import Enquiry.Proofs.Query.Counting
import Enquiry.Proofs.Query.Periods
import Enquiry.Proofs.Query.Ranking
import Enquiry.Proofs.Service.Totals
import Enquiry.Proofs.Record.Draining
import Enquiry.Proofs.Store.Filling
import Enquiry.Proofs.Record.Table
import Enquiry.Proofs.Question.Aggregation
import Enquiry.Proofs.Number.Rounding
import Enquiry.Proofs.Record.Shown
import Enquiry.Proofs.Service.Sizes
import Enquiry.Proofs.Record.Warnings
import Enquiry.Proofs.Engine.Variables
import Enquiry.Proofs.Question.Context
