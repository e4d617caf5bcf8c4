import HaxeBuild.Build.Assets
import HaxeBuild.Build.Command
import HaxeBuild.Build.Parameters
import HaxeBuild.Build.Session
import HaxeBuild.Build.Steps
import HaxeBuild.Build.Target
import HaxeBuild.Build.World
import HaxeBuild.Checked
import HaxeBuild.Configuration
import HaxeBuild.Error
import HaxeBuild.Fault
import HaxeBuild.Files.Contained
import HaxeBuild.Files.Disk
import HaxeBuild.Files.Tree
import HaxeBuild.Files.Walk
import HaxeBuild.Library.Installer
import HaxeBuild.Library.Manager
import HaxeBuild.Library.Reference
import HaxeBuild.Log
import HaxeBuild.Machine.Interpreter
import HaxeBuild.Machine.Launch
import HaxeBuild.Machine.Script
import HaxeBuild.Machine.Shell
import HaxeBuild.Number.Binary64
import HaxeBuild.Number.Decimal
import HaxeBuild.Path
import HaxeBuild.Process.Runner
import HaxeBuild.Program.Basic
import HaxeBuild.Program.Reader
import HaxeBuild.Program.Resource
import HaxeBuild.Proofs.Accord
import HaxeBuild.Proofs.Alike
import HaxeBuild.Proofs.Build.Arguments
import HaxeBuild.Proofs.Build.Calls
import HaxeBuild.Proofs.Build.Checking
import HaxeBuild.Proofs.Build.CommandLine
import HaxeBuild.Proofs.Build.Compilation
import HaxeBuild.Proofs.Build.Consistency
import HaxeBuild.Proofs.Build.Containment
import HaxeBuild.Proofs.Build.Copying
import HaxeBuild.Proofs.Build.CustomCommand
import HaxeBuild.Proofs.Build.DefaultCommand
import HaxeBuild.Proofs.Build.Growth
import HaxeBuild.Proofs.Build.History
import HaxeBuild.Proofs.Build.Interference
import HaxeBuild.Proofs.Build.Interruption
import HaxeBuild.Proofs.Build.Overwriting
import HaxeBuild.Proofs.Build.Phases
import HaxeBuild.Proofs.Build.Publication
import HaxeBuild.Proofs.Build.Requirements
import HaxeBuild.Proofs.Build.Respelling
import HaxeBuild.Proofs.Build.Restaging
import HaxeBuild.Proofs.Build.RunOrder
import HaxeBuild.Proofs.Build.Staging
import HaxeBuild.Proofs.Build.Tasks
import HaxeBuild.Proofs.Build.Writes
import HaxeBuild.Proofs.Effect
import HaxeBuild.Proofs.Files.Asking
import HaxeBuild.Proofs.Files.Climbing
import HaxeBuild.Proofs.Files.Confinement
import HaxeBuild.Proofs.Files.Leads
import HaxeBuild.Proofs.Files.Listing
import HaxeBuild.Proofs.Files.Overlay
import HaxeBuild.Proofs.Files.Persistence
import HaxeBuild.Proofs.Files.Plain
import HaxeBuild.Proofs.Files.Removal
import HaxeBuild.Proofs.Files.Walking
import HaxeBuild.Proofs.Files.Writing
import HaxeBuild.Proofs.Library.Distinct
import HaxeBuild.Proofs.Library.Flags
import HaxeBuild.Proofs.Library.History
import HaxeBuild.Proofs.Library.Listing
import HaxeBuild.Proofs.Library.Memory
import HaxeBuild.Proofs.Library.Requests
import HaxeBuild.Proofs.Library.Supply
import HaxeBuild.Proofs.Library.Written
import HaxeBuild.Proofs.Program.Disclosure
import HaxeBuild.Proofs.Program.Respelling
import HaxeBuild.Proofs.Program.Scope
import HaxeBuild.Proofs.Program.Sites
import HaxeBuild.Proofs.Reference.CompactNames
import HaxeBuild.Proofs.Reference.Edits
import HaxeBuild.Proofs.Reference.FullNames
import HaxeBuild.Proofs.Reference.Reading
import HaxeBuild.Proofs.Reference.Resolution
import HaxeBuild.Proofs.Reference.Spelling
import HaxeBuild.Proofs.Subtarget.Declarations
import HaxeBuild.Proofs.Template.Aliases
import HaxeBuild.Proofs.Template.Cutting
import HaxeBuild.Proofs.Template.Delivery
import HaxeBuild.Proofs.Template.Expansion
import HaxeBuild.Proofs.Template.Interleaving
import HaxeBuild.Proofs.Template.Lexing
import HaxeBuild.Proofs.Template.Lines
import HaxeBuild.Proofs.Template.Literals
import HaxeBuild.Proofs.Template.Nesting
import HaxeBuild.Proofs.Template.Parsing
import HaxeBuild.Proofs.Template.Quoting
import HaxeBuild.Proofs.Template.Rendering
import HaxeBuild.Proofs.Template.Untouched
import HaxeBuild.Proofs.Text.Escaping
import HaxeBuild.Proofs.Text.JsonString
import HaxeBuild.Proofs.Text.LineEnds
import HaxeBuild.Proofs.Text.Order
import HaxeBuild.Proofs.Text.Pieces
import HaxeBuild.Proofs.Text.Rejoining
import HaxeBuild.Proofs.Text.Splitting
import HaxeBuild.Proofs.Text.Trimming
import HaxeBuild.Proofs.Value.Objects
import HaxeBuild.Reference.Descriptor
import HaxeBuild.Reference.Names
import HaxeBuild.Reference.Resolver
import HaxeBuild.Settings.Basic
import HaxeBuild.Subtarget.Basic
import HaxeBuild.Subtarget.Catalog
import HaxeBuild.Template.Call
import HaxeBuild.Template.Check
import HaxeBuild.Template.Eval
import HaxeBuild.Template.Expression
import HaxeBuild.Template.Filter
import HaxeBuild.Template.Lexer
import HaxeBuild.Template.Mark
import HaxeBuild.Template.Parser
import HaxeBuild.Template.Problem
import HaxeBuild.Template.Reader
import HaxeBuild.Template.Render
import HaxeBuild.Template.Segment
import HaxeBuild.Template.Symbols
import HaxeBuild.Template.Syntax
import HaxeBuild.Template.Tag
import HaxeBuild.Template.Token
import HaxeBuild.Text.Basic
import HaxeBuild.Text.Blank
import HaxeBuild.Text.Case
import HaxeBuild.Text.CaseTable
import HaxeBuild.Text.Lines
import HaxeBuild.Text.Literal
import HaxeBuild.Text.Property
import HaxeBuild.Text.Quoted
import HaxeBuild.Text.Utf8
import HaxeBuild.Value.Access
import HaxeBuild.Value.Arithmetic
import HaxeBuild.Value.Basic
import HaxeBuild.Value.Equality
import HaxeBuild.Value.Method
import HaxeBuild.Value.Objects
import HaxeBuild.Value.Print
import HaxeBuild.Value.Reader
import HaxeBuild.Value.Sequence
