import SimSweep.Arguments
import SimSweep.Arguments.Reading
import SimSweep.Arguments.Usage
import SimSweep.Command
import SimSweep.Command.Words
import SimSweep.Ending
import SimSweep.Failure
import SimSweep.Json.Decoder
import SimSweep.Json.Fault
import SimSweep.Json.Node
import SimSweep.Json.Numeral
import SimSweep.Json.Printer
import SimSweep.Json.Record
import SimSweep.Json.Tagged
import SimSweep.Json.Text
import SimSweep.Json.Value
import SimSweep.Kernel.Fault
import SimSweep.Kernel.Files
import SimSweep.Kernel.Octets
import SimSweep.Kernel.Program
import SimSweep.Kernel.Scheduler
import SimSweep.Kernel.Signal
import SimSweep.Kernel.Work
import SimSweep.Kernel.World
import SimSweep.Launch
import SimSweep.Log.Entry
import SimSweep.Log.Logger
import SimSweep.Log.Progress
import SimSweep.Log.Session
import SimSweep.Main
import SimSweep.Number.Binary64
import SimSweep.Number.Decimal
import SimSweep.Number.Numeral
import SimSweep.Number.Reading
import SimSweep.NumberList
import SimSweep.Plan
import SimSweep.Preset
import SimSweep.Program
import SimSweep.Proofs.Arguments.Orders
import SimSweep.Proofs.Arguments.Sayings
import SimSweep.Proofs.Arguments.Switches
import SimSweep.Proofs.Arguments.Values
import SimSweep.Proofs.Command.Decoding
import SimSweep.Proofs.Command.Interval
import SimSweep.Proofs.Command.Line
import SimSweep.Proofs.Command.Words
import SimSweep.Proofs.Json.Codec
import SimSweep.Proofs.Json.Compact
import SimSweep.Proofs.Json.Magnitude
import SimSweep.Proofs.Json.Members
import SimSweep.Proofs.Json.Numeral
import SimSweep.Proofs.Json.Reading
import SimSweep.Proofs.Json.Scaling
import SimSweep.Proofs.Json.Text
import SimSweep.Proofs.Kernel.Descriptors
import SimSweep.Proofs.Kernel.Pipes
import SimSweep.Proofs.Kernel.Processes
import SimSweep.Proofs.Kernel.Runs
import SimSweep.Proofs.Log.Console
import SimSweep.Proofs.Log.Entry
import SimSweep.Proofs.Log.Lines
import SimSweep.Proofs.Number.Decimal
import SimSweep.Proofs.Number.Digits
import SimSweep.Proofs.Number.Nearness
import SimSweep.Proofs.Number.Rank
import SimSweep.Proofs.Number.RoundTrip
import SimSweep.Proofs.Number.Rounding
import SimSweep.Proofs.Number.Value
import SimSweep.Proofs.Number.Whole
import SimSweep.Proofs.Plan.Counts
import SimSweep.Proofs.Plan.Division
import SimSweep.Proofs.Plan.Members
import SimSweep.Proofs.Plan.Points
import SimSweep.Proofs.Program.Account
import SimSweep.Proofs.Program.Across
import SimSweep.Proofs.Program.Colors
import SimSweep.Proofs.Program.Course
import SimSweep.Proofs.Program.ExitCode
import SimSweep.Proofs.Program.Launching
import SimSweep.Proofs.Program.Output
import SimSweep.Proofs.Program.Prepared
import SimSweep.Proofs.Program.Quotes
import SimSweep.Proofs.Program.World
import SimSweep.Proofs.Report.Columns
import SimSweep.Proofs.Report.Counters
import SimSweep.Proofs.Report.Sections
import SimSweep.Proofs.Report.StatusWord
import SimSweep.Proofs.Report.Verdict
import SimSweep.Proofs.Report.Views
import SimSweep.Proofs.Serial.Entry
import SimSweep.Proofs.Serial.Parameters
import SimSweep.Proofs.Serial.Report
import SimSweep.Proofs.Settings.Checks
import SimSweep.Proofs.Settings.Entries
import SimSweep.Proofs.Settings.FirstFault
import SimSweep.Proofs.Settings.Layers
import SimSweep.Proofs.Settings.Listing
import SimSweep.Proofs.Settings.Lists
import SimSweep.Proofs.Settings.Merging
import SimSweep.Proofs.Settings.Refusal
import SimSweep.Proofs.Settings.Summary
import SimSweep.Proofs.Settings.Validation
import SimSweep.Proofs.Sweep.Calls
import SimSweep.Proofs.Sweep.Journal
import SimSweep.Proofs.Sweep.Loop
import SimSweep.Proofs.Terminal.Coloring
import SimSweep.Proofs.Terminal.Dressing
import SimSweep.Proofs.Text.ByteOrder
import SimSweep.Proofs.Text.Integer
import SimSweep.Proofs.Text.Parts
import SimSweep.Proofs.Time.Calendar
import SimSweep.Proofs.Time.Reading
import SimSweep.Proofs.Tool.Plain
import SimSweep.Report
import SimSweep.Report.Display
import SimSweep.Report.Table
import SimSweep.Report.View
import SimSweep.Runner
import SimSweep.Serial.Entry
import SimSweep.Serial.Parameters
import SimSweep.Serial.Report
import SimSweep.Settings
import SimSweep.Settings.Environment
import SimSweep.Shell.Arithmetic
import SimSweep.Shell.Builtin.Jobs
import SimSweep.Shell.Builtin.Options
import SimSweep.Shell.Builtin.Places
import SimSweep.Shell.Builtin.Table
import SimSweep.Shell.Builtin.Variables
import SimSweep.Shell.Condition
import SimSweep.Shell.Execution
import SimSweep.Shell.Expansion
import SimSweep.Shell.Fields
import SimSweep.Shell.Format
import SimSweep.Shell.Fraction
import SimSweep.Shell.Glob
import SimSweep.Shell.Jobs
import SimSweep.Shell.Machine
import SimSweep.Shell.Numeral
import SimSweep.Shell.Pattern
import SimSweep.Shell.Reading
import SimSweep.Shell.Redirecting
import SimSweep.Shell.Start
import SimSweep.Shell.Token
import SimSweep.Shell.Tree
import SimSweep.Sweep
import SimSweep.Terminal.Colors
import SimSweep.Terminal.Strip
import SimSweep.Terminal.Style
import SimSweep.Text.Blank
import SimSweep.Text.Integer
import SimSweep.Text.Layout
import SimSweep.Text.Quoted
import SimSweep.Text.Utf8
import SimSweep.Time.Calendar
import SimSweep.Time.Duration
import SimSweep.Time.Reading
import SimSweep.Time.Timestamp
import SimSweep.Tool.Deed
import SimSweep.Tool.Expression
import SimSweep.Tool.Lines
import SimSweep.Tool.Options
import SimSweep.Tool.Paths
import SimSweep.Tool.Plain
import SimSweep.Tool.Regex
import SimSweep.Tool.Running
import SimSweep.Tool.Sequence
import SimSweep.Tool.Table
