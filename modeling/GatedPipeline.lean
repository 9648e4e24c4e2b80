import GatedPipeline.Bindings
import GatedPipeline.CommandLine.Arguments
import GatedPipeline.CommandLine.Basic
import GatedPipeline.Condition.Basic
import GatedPipeline.Condition.Expr
import GatedPipeline.Condition.Lexer
import GatedPipeline.Condition.Parser
import GatedPipeline.Definition.Basic
import GatedPipeline.Definition.Document
import GatedPipeline.Definition.Fault
import GatedPipeline.Definition.Record
import GatedPipeline.Definition.Schema
import GatedPipeline.Definition.Shape
import GatedPipeline.Digraph
import GatedPipeline.DotEnv
import GatedPipeline.Duration
import GatedPipeline.Environment
import GatedPipeline.Error
import GatedPipeline.Event
import GatedPipeline.Files
import GatedPipeline.Glob
import GatedPipeline.InstanceId
import GatedPipeline.Interpolation
import GatedPipeline.JobGraph
import GatedPipeline.Json.Basic
import GatedPipeline.Json.Printer
import GatedPipeline.Json.Reader
import GatedPipeline.Json.Texts
import GatedPipeline.Main
import GatedPipeline.Matrix.Basic
import GatedPipeline.Number.Decimal
import GatedPipeline.Number.Double
import GatedPipeline.Path
import GatedPipeline.Plan
import GatedPipeline.Proofs.Acceptance
import GatedPipeline.Proofs.Acyclicity
import GatedPipeline.Proofs.Agreement
import GatedPipeline.Proofs.BuiltGraph
import GatedPipeline.Proofs.CapturedOutput
import GatedPipeline.Proofs.Completion
import GatedPipeline.Proofs.Conclusion
import GatedPipeline.Proofs.Confluence
import GatedPipeline.Proofs.Course
import GatedPipeline.Proofs.Coverage
import GatedPipeline.Proofs.CycleWalk
import GatedPipeline.Proofs.DeclaredGraph
import GatedPipeline.Proofs.DeclaredNeeds
import GatedPipeline.Proofs.DeclaredSecrets
import GatedPipeline.Proofs.DisplayedIdentity
import GatedPipeline.Proofs.Downstream
import GatedPipeline.Proofs.EnvironmentLayers
import GatedPipeline.Proofs.Execution
import GatedPipeline.Proofs.FailFast
import GatedPipeline.Proofs.FirstStop
import GatedPipeline.Proofs.Gates
import GatedPipeline.Proofs.Grammar
import GatedPipeline.Proofs.Identity
import GatedPipeline.Proofs.LexicalErrors
import GatedPipeline.Proofs.Lifecycle
import GatedPipeline.Proofs.Lockstep
import GatedPipeline.Proofs.LookupHistory
import GatedPipeline.Proofs.MaskAgreement
import GatedPipeline.Proofs.MaskedParts
import GatedPipeline.Proofs.Masking
import GatedPipeline.Proofs.MatrixExpansion
import GatedPipeline.Proofs.MatrixParameters
import GatedPipeline.Proofs.MatrixTexts
import GatedPipeline.Proofs.MatrixVariables
import GatedPipeline.Proofs.Milestones
import GatedPipeline.Proofs.Noninterference
import GatedPipeline.Proofs.OutstandingCounts
import GatedPipeline.Proofs.Parsing
import GatedPipeline.Proofs.PatternForms
import GatedPipeline.Proofs.PlannedRun
import GatedPipeline.Proofs.Propagation
import GatedPipeline.Proofs.RecursivePatterns
import GatedPipeline.Proofs.Redaction
import GatedPipeline.Proofs.ReportedCycle
import GatedPipeline.Proofs.Resolution
import GatedPipeline.Proofs.RunHistory
import GatedPipeline.Proofs.RunLog
import GatedPipeline.Proofs.SecretCache
import GatedPipeline.Proofs.SecretFlow
import GatedPipeline.Proofs.SettingChange
import GatedPipeline.Proofs.SkipCauses
import GatedPipeline.Proofs.Slots
import GatedPipeline.Proofs.Spelling
import GatedPipeline.Proofs.Standing
import GatedPipeline.Proofs.StartSafety
import GatedPipeline.Proofs.Substitution
import GatedPipeline.Proofs.Tally
import GatedPipeline.Proofs.Templates
import GatedPipeline.Proofs.Timeless
import GatedPipeline.Proofs.TopologicalOrder
import GatedPipeline.Proofs.TriggerTable
import GatedPipeline.Proofs.Undeclared
import GatedPipeline.Proofs.WellFormed
import GatedPipeline.Proofs.WorkConservation
import GatedPipeline.Proofs.Writes
import GatedPipeline.Proofs.WrittenCondition
import GatedPipeline.Report
import GatedPipeline.Report.Printer
import GatedPipeline.Report.Reader
import GatedPipeline.Run.Basic
import GatedPipeline.Run.Context
import GatedPipeline.Run.Execution
import GatedPipeline.Run.Progress
import GatedPipeline.Run.Scheduler
import GatedPipeline.RunId
import GatedPipeline.Secret.Scope
import GatedPipeline.Secret.Store
import GatedPipeline.Settings.Basic
import GatedPipeline.Shell.Arithmetic
import GatedPipeline.Shell.Assigning
import GatedPipeline.Shell.Braces
import GatedPipeline.Shell.Builtin.Basic
import GatedPipeline.Shell.Builtin.Completing
import GatedPipeline.Shell.Builtin.Declaration
import GatedPipeline.Shell.Builtin.Directories
import GatedPipeline.Shell.Builtin.Input
import GatedPipeline.Shell.Builtin.Jobs
import GatedPipeline.Shell.Builtin.Names
import GatedPipeline.Shell.Builtin.Settings
import GatedPipeline.Shell.Calendar
import GatedPipeline.Shell.Channel
import GatedPipeline.Shell.Charset
import GatedPipeline.Shell.Complaint
import GatedPipeline.Shell.Completion
import GatedPipeline.Shell.Cursor
import GatedPipeline.Shell.Dialogue
import GatedPipeline.Shell.Elements
import GatedPipeline.Shell.Evaluation
import GatedPipeline.Shell.Evaluation.Calling
import GatedPipeline.Shell.Evaluation.Completing
import GatedPipeline.Shell.Evaluation.Compound
import GatedPipeline.Shell.Evaluation.Control
import GatedPipeline.Shell.Evaluation.Launching
import GatedPipeline.Shell.Evaluation.Programs
import GatedPipeline.Shell.Evaluation.Substituting
import GatedPipeline.Shell.Evaluation.Text
import GatedPipeline.Shell.Expansion
import GatedPipeline.Shell.Format
import GatedPipeline.Shell.Layout
import GatedPipeline.Shell.Lexer
import GatedPipeline.Shell.Mention
import GatedPipeline.Shell.Parameter
import GatedPipeline.Shell.Parser
import GatedPipeline.Shell.Pathname
import GatedPipeline.Shell.Pattern
import GatedPipeline.Shell.PlainArithmetic
import GatedPipeline.Shell.Printer
import GatedPipeline.Shell.Process
import GatedPipeline.Shell.Program.Basic
import GatedPipeline.Shell.Program.Comparing
import GatedPipeline.Shell.Program.Encoding
import GatedPipeline.Shell.Program.FileTree
import GatedPipeline.Shell.Program.Finding
import GatedPipeline.Shell.Program.Lines
import GatedPipeline.Shell.Program.Listing
import GatedPipeline.Shell.Program.Matching
import GatedPipeline.Shell.Program.Named
import GatedPipeline.Shell.Program.Numbers
import GatedPipeline.Shell.Program.Sequence
import GatedPipeline.Shell.Prompt
import GatedPipeline.Shell.Quoting
import GatedPipeline.Shell.Redirecting
import GatedPipeline.Shell.Regex
import GatedPipeline.Shell.Runner
import GatedPipeline.Shell.Search
import GatedPipeline.Shell.Signal
import GatedPipeline.Shell.Startup
import GatedPipeline.Shell.State
import GatedPipeline.Shell.Syntax
import GatedPipeline.Shell.Testing
import GatedPipeline.Shell.Tracing
import GatedPipeline.Shell.Variable
import GatedPipeline.StepRunner
import GatedPipeline.Text.Affix
import GatedPipeline.Text.Alphanumeric
import GatedPipeline.Text.Blank
import GatedPipeline.Text.Bytes
import GatedPipeline.Text.CharacterClass
import GatedPipeline.Text.LowerCase
import GatedPipeline.Text.Printable
import GatedPipeline.Text.Quoted
import GatedPipeline.Text.UpperCase
import GatedPipeline.Text.Version
import GatedPipeline.Timestamp
import GatedPipeline.Trigger
import GatedPipeline.Yaml.Event
import GatedPipeline.Yaml.Fault
import GatedPipeline.Yaml.Lexer
import GatedPipeline.Yaml.Mismatch
import GatedPipeline.Yaml.Plain
import GatedPipeline.Yaml.Printer
import GatedPipeline.Yaml.Reader
import GatedPipeline.Yaml.Scalar
import GatedPipeline.Yaml.Tag
import GatedPipeline.Yaml.Token
