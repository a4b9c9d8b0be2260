import JsonTemplate.Assoc
import JsonTemplate.Builtin
import JsonTemplate.Command.Run
import JsonTemplate.Command.Words
import JsonTemplate.CommandLine.Help
import JsonTemplate.CommandLine.Options
import JsonTemplate.CommandLine.Run
import JsonTemplate.Evaluation.Basic
import JsonTemplate.Evaluation.Diagnostic
import JsonTemplate.Evaluation.Run
import JsonTemplate.Evaluation.Session
import JsonTemplate.Evaluation.StackStep
import JsonTemplate.Evaluation.Stacks
import JsonTemplate.Evaluation.Template
import JsonTemplate.Expression.Basic
import JsonTemplate.Expression.Parser
import JsonTemplate.Failure
import JsonTemplate.Files.Fault
import JsonTemplate.Files.FilePath
import JsonTemplate.Files.Home
import JsonTemplate.Files.Tree
import JsonTemplate.Host
import JsonTemplate.Json.Basic
import JsonTemplate.Json.Described
import JsonTemplate.Json.Document
import JsonTemplate.Json.Keys
import JsonTemplate.Json.Parser
import JsonTemplate.Json.Printer
import JsonTemplate.Json.Sorted
import JsonTemplate.Json.SyntaxError
import JsonTemplate.Main
import JsonTemplate.Number.Double
import JsonTemplate.Number.Magnitude
import JsonTemplate.Number.Numeral
import JsonTemplate.Number.Shortest
import JsonTemplate.Path.Basic
import JsonTemplate.Path.Order
import JsonTemplate.Path.Parser
import JsonTemplate.Path.Select
import JsonTemplate.Path.Token
import JsonTemplate.Proofs.Assoc
import JsonTemplate.Proofs.Command.Copying
import JsonTemplate.Proofs.CommandLine.AllOrNothing
import JsonTemplate.Proofs.CommandLine.NullOutput
import JsonTemplate.Proofs.Evaluation.Allowance
import JsonTemplate.Proofs.Evaluation.Breakdown
import JsonTemplate.Proofs.Evaluation.Containment
import JsonTemplate.Proofs.Evaluation.DepthLimit
import JsonTemplate.Proofs.Evaluation.Inlining
import JsonTemplate.Proofs.Evaluation.Leaves
import JsonTemplate.Proofs.Evaluation.Mapping
import JsonTemplate.Proofs.Evaluation.Mention
import JsonTemplate.Proofs.Evaluation.Nesting
import JsonTemplate.Proofs.Evaluation.Outcome
import JsonTemplate.Proofs.Evaluation.Reachability
import JsonTemplate.Proofs.Evaluation.Rebinding
import JsonTemplate.Proofs.Evaluation.Redeclaring
import JsonTemplate.Proofs.Evaluation.Restoration
import JsonTemplate.Proofs.Evaluation.Scoping
import JsonTemplate.Proofs.Evaluation.Simulation
import JsonTemplate.Proofs.Evaluation.TextFault
import JsonTemplate.Proofs.Evaluation.Tracing
import JsonTemplate.Proofs.Evaluation.Walk
import JsonTemplate.Proofs.Expression.Balance
import JsonTemplate.Proofs.Expression.Pipeline
import JsonTemplate.Proofs.Expression.Reading
import JsonTemplate.Proofs.Expression.Segment
import JsonTemplate.Proofs.Expression.Spaced
import JsonTemplate.Proofs.Expression.Widening
import JsonTemplate.Proofs.Files.Directory
import JsonTemplate.Proofs.Files.Tree
import JsonTemplate.Proofs.Json.Atom
import JsonTemplate.Proofs.Json.Canonical
import JsonTemplate.Proofs.Json.Compact
import JsonTemplate.Proofs.Json.Named
import JsonTemplate.Proofs.Json.Number
import JsonTemplate.Proofs.Json.Proper
import JsonTemplate.Proofs.Json.RoundTrip
import JsonTemplate.Proofs.Json.Strings
import JsonTemplate.Proofs.Json.Unambiguous
import JsonTemplate.Proofs.Number.Digits
import JsonTemplate.Proofs.Number.Rounding
import JsonTemplate.Proofs.Number.Shortest
import JsonTemplate.Proofs.Spec.Caching
import JsonTemplate.Proofs.Spec.Closure
import JsonTemplate.Proofs.Spec.Comparing
import JsonTemplate.Proofs.Spec.Cycles
import JsonTemplate.Proofs.Spec.FlatMerging
import JsonTemplate.Proofs.Spec.Format
import JsonTemplate.Proofs.Spec.Growing
import JsonTemplate.Proofs.Spec.Loading
import JsonTemplate.Proofs.Spec.Merging
import JsonTemplate.Proofs.Spec.Moving
import JsonTemplate.Proofs.Spec.Refusal
import JsonTemplate.Proofs.Spec.Reordering
import JsonTemplate.Proofs.Spec.Route
import JsonTemplate.Proofs.Spec.Sameness
import JsonTemplate.Proofs.Spec.UseTree
import JsonTemplate.Proofs.Spec.WellFormed
import JsonTemplate.Proofs.Text.Trim
import JsonTemplate.Proofs.Text.Utf8
import JsonTemplate.Sandbox.Escape
import JsonTemplate.Sandbox.Format
import JsonTemplate.Sandbox.Octets
import JsonTemplate.Sandbox.Program
import JsonTemplate.Sandbox.Real
import JsonTemplate.Sandbox.Run
import JsonTemplate.Sandbox.Shell.Arithmetic
import JsonTemplate.Sandbox.Shell.Builtin.Basic
import JsonTemplate.Sandbox.Shell.Builtin.Directory
import JsonTemplate.Sandbox.Shell.Builtin.Input
import JsonTemplate.Sandbox.Shell.Builtin.Names
import JsonTemplate.Sandbox.Shell.Builtin.Process
import JsonTemplate.Sandbox.Shell.Builtin.Variables
import JsonTemplate.Sandbox.Shell.Builtin.Writing
import JsonTemplate.Sandbox.Shell.Expansion
import JsonTemplate.Sandbox.Shell.Fields
import JsonTemplate.Sandbox.Shell.Invocation
import JsonTemplate.Sandbox.Shell.Pattern
import JsonTemplate.Sandbox.Shell.Process
import JsonTemplate.Sandbox.Shell.Reader
import JsonTemplate.Sandbox.Shell.Redirection
import JsonTemplate.Sandbox.Shell.Run
import JsonTemplate.Sandbox.Shell.State
import JsonTemplate.Sandbox.Shell.Syntax
import JsonTemplate.Sandbox.Shell.Test
import JsonTemplate.Sandbox.Shell.Token
import JsonTemplate.Sandbox.Tool.Basic
import JsonTemplate.Sandbox.Tool.Cat
import JsonTemplate.Sandbox.Tool.Count
import JsonTemplate.Sandbox.Tool.Echo
import JsonTemplate.Sandbox.Tool.Head
import JsonTemplate.Sandbox.Tool.Options
import JsonTemplate.Sandbox.Tool.Sleep
import JsonTemplate.Sandbox.Tool.Translate
import JsonTemplate.Sandbox.World
import JsonTemplate.Settings
import JsonTemplate.Spec.Basic
import JsonTemplate.Spec.Declaration
import JsonTemplate.Spec.Loader
import JsonTemplate.Text.Blank
import JsonTemplate.Text.Console
import JsonTemplate.Text.Digit
import JsonTemplate.Text.Emoji
import JsonTemplate.Text.Newline
import JsonTemplate.Text.Printable
import JsonTemplate.Text.Quoted
import JsonTemplate.Text.Ranges
import JsonTemplate.Text.Utf8
import JsonTemplate.Text.Word
import JsonTemplate.Yaml.Document
import JsonTemplate.Yaml.Flow
import JsonTemplate.Yaml.Scalar
