import Handoff.Bytes
import Handoff.Bytes.Octets
import Handoff.CommandLine
import Handoff.Delegation
import Handoff.Echo
import Handoff.Environment
import Handoff.Facility
import Handoff.Fault
import Handoff.HandOver
import Handoff.Host.Directory
import Handoff.Host.Image
import Handoff.Host.Machine
import Handoff.Host.Path
import Handoff.Host.Site
import Handoff.Host.Tools.Concatenate
import Handoff.Host.Tools.Count
import Handoff.Host.Tools.Format
import Handoff.Host.Tools.Help
import Handoff.Host.Tools.Options
import Handoff.Host.Tools.Quoting
import Handoff.Host.Tools.Remove
import Handoff.Host.Tools.Request
import Handoff.Invocation
import Handoff.Library
import Handoff.Log.Directive
import Handoff.Log.Filter
import Handoff.Log.Layout
import Handoff.Log.Level
import Handoff.Log.Notice
import Handoff.Log.Stamp
import Handoff.Main
import Handoff.Number.Binary
import Handoff.Number.Layout
import Handoff.Number.Whole
import Handoff.Program
import Handoff.Proofs.DelegationOrder
import Handoff.Proofs.EchoStream
import Handoff.Proofs.HandOverTrace
import Handoff.Proofs.OneShotWrite
import Handoff.Proofs.RunnerStarts
import Handoff.Proofs.Slicing
import Handoff.Quoted
import Handoff.Report
import Handoff.Runner
import Handoff.Settings
import Handoff.Shell.Arithmetic
import Handoff.Shell.Binding
import Handoff.Shell.BuiltinName
import Handoff.Shell.Builtins.Call
import Handoff.Shell.Builtins.Commands
import Handoff.Shell.Builtins.Flow
import Handoff.Shell.Builtins.Jobs
import Handoff.Shell.Builtins.Output
import Handoff.Shell.Builtins.Surroundings
import Handoff.Shell.Builtins.Table
import Handoff.Shell.Builtins.Test
import Handoff.Shell.Builtins.Variables
import Handoff.Shell.Commands
import Handoff.Shell.Evaluation
import Handoff.Shell.Expansion
import Handoff.Shell.Fields
import Handoff.Shell.Glyph
import Handoff.Shell.Grammar
import Handoff.Shell.Invocation
import Handoff.Shell.Lookup
import Handoff.Shell.Names
import Handoff.Shell.Pattern
import Handoff.Shell.Processes
import Handoff.Shell.Reader
import Handoff.Shell.Redirect
import Handoff.Shell.Session
import Handoff.Shell.Signals
import Handoff.Shell.SimpleCommand
import Handoff.Shell.Source
import Handoff.Shell.Switch
import Handoff.Shell.Token
import Handoff.Shell.Words
import Handoff.Sink
import Handoff.Status
import Handoff.Streams
import Handoff.Text.Alphanumeric
import Handoff.Text.Blank
import Handoff.Text.ByteOffset
import Handoff.Text.CodeRanges
import Handoff.Text.DefaultIgnorable
import Handoff.Text.Escape
import Handoff.Text.GraphemeExtend
import Handoff.Text.Unprintable
import Handoff.Utf8
import Handoff.Proofs.RunOutcome
import Handoff.Proofs.LogSetting
import Handoff.Proofs.Diagnostics
import Handoff.Proofs.DirectiveCuts
import Handoff.Proofs.FilterFallback
import Handoff.Proofs.Openings
import Handoff.Proofs.Segmentation
import Handoff.Proofs.EchoLine
import Handoff.Proofs.SubcommandName
import Handoff.Proofs.SettingsParts
import Handoff.Proofs.FilterPieces
import Handoff.Proofs.CommandLog
import Handoff.Proofs.DescribedSettings
import Handoff.Proofs.WriteRounds
