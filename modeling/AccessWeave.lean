import AccessWeave.Agent
import AccessWeave.Ascending
import AccessWeave.Class.ClassFile
import AccessWeave.Class.Codec
import AccessWeave.Class.Description
import AccessWeave.Class.Instruction
import AccessWeave.Class.Listing
import AccessWeave.Class.Payload
import AccessWeave.Class.Verify
import AccessWeave.Command.Arguments
import AccessWeave.Command.Artifact
import AccessWeave.Command.Batch
import AccessWeave.Command.Failure
import AccessWeave.Command.Format
import AccessWeave.Command.Outcome
import AccessWeave.Command.PolicyCheck
import AccessWeave.Command.Rehearsal
import AccessWeave.Command.Request
import AccessWeave.Command.Run
import AccessWeave.Decimal.Binary
import AccessWeave.Decimal.Digits
import AccessWeave.Decimal.Layout
import AccessWeave.Decimal.Power
import AccessWeave.Decimal.Shortest
import AccessWeave.Host.Address
import AccessWeave.Host.Fault
import AccessWeave.Host.Isolated
import AccessWeave.Host.Path
import AccessWeave.Host.Program
import AccessWeave.Host.Signal
import AccessWeave.Host.Standard
import AccessWeave.Host.Tree
import AccessWeave.Json.Document
import AccessWeave.Json.Escape
import AccessWeave.Json.Number
import AccessWeave.Json.Reader
import AccessWeave.Json.Record
import AccessWeave.Json.Writer
import AccessWeave.Main
import AccessWeave.Operation
import AccessWeave.Policy.Catalog
import AccessWeave.Policy.Config
import AccessWeave.Policy.Decision
import AccessWeave.Policy.Description
import AccessWeave.Policy.Guarded
import AccessWeave.Policy.Principal
import AccessWeave.Policy.Properties
import AccessWeave.Policy.Stack
import AccessWeave.Shell.Action
import AccessWeave.Shell.Arithmetic
import AccessWeave.Shell.Builtin.Jobs
import AccessWeave.Shell.Builtin.Jumps
import AccessWeave.Shell.Builtin.Letters
import AccessWeave.Shell.Builtin.Names
import AccessWeave.Shell.Builtin.Places
import AccessWeave.Shell.Builtin.Printing
import AccessWeave.Shell.Builtin.Signals
import AccessWeave.Shell.Builtin.Variables
import AccessWeave.Shell.Commands
import AccessWeave.Shell.Condition
import AccessWeave.Shell.Engine
import AccessWeave.Shell.Escapes
import AccessWeave.Shell.Fields
import AccessWeave.Shell.Filling
import AccessWeave.Shell.Finding
import AccessWeave.Shell.Floating
import AccessWeave.Shell.Format
import AccessWeave.Shell.Grammar
import AccessWeave.Shell.Heading
import AccessWeave.Shell.Matches
import AccessWeave.Shell.Numeral
import AccessWeave.Shell.Output
import AccessWeave.Shell.Pattern
import AccessWeave.Shell.Process
import AccessWeave.Shell.Program.Concatenation
import AccessWeave.Shell.Program.ShownName
import AccessWeave.Shell.Redirecting
import AccessWeave.Shell.Running
import AccessWeave.Shell.Simple
import AccessWeave.Shell.Source
import AccessWeave.Shell.Start
import AccessWeave.Shell.State
import AccessWeave.Shell.Tokens
import AccessWeave.Shell.Turns
import AccessWeave.Shell.Variable
import AccessWeave.Shell.Waiting
import AccessWeave.Shell.Words
import AccessWeave.Shell.World
import AccessWeave.Text.Blank
import AccessWeave.Text.Bytes
import AccessWeave.Text.CodeRanges
import AccessWeave.Text.Column
import AccessWeave.Text.Extender
import AccessWeave.Text.Hex
import AccessWeave.Text.Invisible
import AccessWeave.Text.Letter
import AccessWeave.Text.Numeral
import AccessWeave.Text.Octets
import AccessWeave.Text.Quoted
import AccessWeave.Text.Split
import AccessWeave.Weave.Body
import AccessWeave.Weave.Description
import AccessWeave.Weave.Guard
import AccessWeave.Weave.Rule
import AccessWeave.Weave.Stream
import AccessWeave.Weave.Transformer
import AccessWeave.Proofs.Weave.CallSites
import AccessWeave.Proofs.Weave.Coverage
import AccessWeave.Proofs.Weave.ExistingGuards
import AccessWeave.Proofs.Weave.Flags
import AccessWeave.Proofs.Weave.Weaving
import AccessWeave.Proofs.Class.ControlFlow
import AccessWeave.Proofs.Weave.GuardedPaths
import AccessWeave.Proofs.Enforcement
import AccessWeave.Proofs.Weave.Layout
import AccessWeave.Proofs.Weave.Traces
import AccessWeave.Proofs.Weave.Preservation
import AccessWeave.Proofs.Class.ClassExact
import AccessWeave.Proofs.Weave.Growth
import AccessWeave.Proofs.Class.BinaryForm
import AccessWeave.Proofs.Weave.Idempotence
import AccessWeave.Proofs.Class.WellFormed
import AccessWeave.Proofs.Weave.Insertion
import AccessWeave.Proofs.Weave.Methods
import AccessWeave.Proofs.Weave.Dispatching
import AccessWeave.Proofs.Weave.Failure
import AccessWeave.Proofs.Weave.Verification
import AccessWeave.Proofs.Class.Canonicity
import AccessWeave.Proofs.Class.Faults
import AccessWeave.Proofs.Policy.Decisions
import AccessWeave.Proofs.Policy.FrameLifetimes
import AccessWeave.Proofs.Policy.Undisturbed
import AccessWeave.Proofs.Decimal.Powers
import AccessWeave.Proofs.Decimal.SeventeenDigits
import AccessWeave.Proofs.Json.Numbers
import AccessWeave.Proofs.Weave.HandedBack
import AccessWeave.Proofs.Weave.RuleOrder
import AccessWeave.Proofs.Weave.Contexts
import AccessWeave.Proofs.Weave.StackDepth
import AccessWeave.Proofs.Host.Paths
import AccessWeave.Proofs.Host.Walking
import AccessWeave.Proofs.Host.Locating
import AccessWeave.Proofs.Host.Growth
import AccessWeave.Proofs.Host.MakingDirectories
import AccessWeave.Proofs.Host.Filling
import AccessWeave.Proofs.Host.Scanning
import AccessWeave.Proofs.Command.OneFile
import AccessWeave.Proofs.Command.Independence
import AccessWeave.Proofs.Command.UnmodifiedFiles
import AccessWeave.Proofs.Command.DirectoryRuns
import AccessWeave.Proofs.Policy.Names
import AccessWeave.Proofs.Policy.Lookup
import AccessWeave.Proofs.Policy.Reading
import AccessWeave.Proofs.Policy.Rendering
import AccessWeave.Proofs.Class.ListingLines
import AccessWeave.Proofs.Command.Inspection
import AccessWeave.Proofs.Policy.Overlays
import AccessWeave.Proofs.Policy.Environment
import AccessWeave.Proofs.Policy.Overrides
import AccessWeave.Proofs.Command.PolicySources
import AccessWeave.Proofs.Text.Trimming
import AccessWeave.Proofs.Policy.PropertyLines
import AccessWeave.Proofs.Policy.PrincipalForm
