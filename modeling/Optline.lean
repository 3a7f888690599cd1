import Optline.Builtin
import Optline.Cli.Grammar
import Optline.Cli.Program
import Optline.Cli.Request
import Optline.Cli.Verbosity
import Optline.Cli.Wire
import Optline.Console
import Optline.Constraint
import Optline.Decimal.Binary
import Optline.Decimal.Fixed
import Optline.Decimal.Literal
import Optline.Decimal.Shortest
import Optline.Dispatch
import Optline.Display.Answer
import Optline.Display.Layout
import Optline.Display.Style
import Optline.Document.Json
import Optline.Document.Json.Printer
import Optline.Document.Json.Reader
import Optline.Document.Yaml
import Optline.Document.Yaml.Place
import Optline.Document.Yaml.Reader
import Optline.Document.Yaml.Scalar
import Optline.Document.Yaml.Tag
import Optline.Document.Yaml.Token
import Optline.Document.Yaml.Token.Lexer
import Optline.Fault
import Optline.Help
import Optline.Invocation
import Optline.Main
import Optline.Manifest
import Optline.Notice
import Optline.Profile.Report
import Optline.Profile.Usage
import Optline.Proofs.Access
import Optline.Proofs.Blank
import Optline.Proofs.BraceGroup
import Optline.Proofs.Breakdown
import Optline.Proofs.CanonicalText
import Optline.Proofs.Color
import Optline.Proofs.CommandLine
import Optline.Proofs.Comment
import Optline.Proofs.Composition
import Optline.Proofs.Constraint
import Optline.Proofs.Conversation
import Optline.Proofs.Counters
import Optline.Proofs.Cutting
import Optline.Proofs.Delivery
import Optline.Proofs.Describe
import Optline.Proofs.Diagnostics
import Optline.Proofs.DryRun
import Optline.Proofs.Enforcement
import Optline.Proofs.Escapes
import Optline.Proofs.Execution
import Optline.Proofs.ExitStatus
import Optline.Proofs.HelpText
import Optline.Proofs.HiddenOptions
import Optline.Proofs.InputLines
import Optline.Proofs.IntegerValue
import Optline.Proofs.JoinedEscapes
import Optline.Proofs.Lossless
import Optline.Proofs.Notices
import Optline.Proofs.Numeral
import Optline.Proofs.OptionRows
import Optline.Proofs.OuterBlanks
import Optline.Proofs.Positional
import Optline.Proofs.Profiling
import Optline.Proofs.Quoting
import Optline.Proofs.Readings
import Optline.Proofs.Registration
import Optline.Proofs.Reordering
import Optline.Proofs.Script
import Optline.Proofs.Segment
import Optline.Proofs.Sequence
import Optline.Proofs.Settings
import Optline.Proofs.SideBySide
import Optline.Proofs.SpecTokens
import Optline.Proofs.Stopping
import Optline.Proofs.Table
import Optline.Proofs.Verdict
import Optline.Proofs.WordCount
import Optline.Registry
import Optline.Script
import Optline.Session
import Optline.Spec
import Optline.Text.Blank
import Optline.Text.Cut
import Optline.Text.Quoted
import Optline.Text.Upper
import Optline.Token
import Optline.Validation
