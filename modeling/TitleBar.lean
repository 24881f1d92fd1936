import TitleBar.Aggregate
import TitleBar.Color
import TitleBar.Color.Luminance
import TitleBar.CommandLine.Action
import TitleBar.CommandLine.Grammar
import TitleBar.CommandLine.Help
import TitleBar.CommandLine.Invocation
import TitleBar.CommandLine.Listing
import TitleBar.CommandLine.Opening
import TitleBar.CommandLine.Request
import TitleBar.CommandLine.Survey
import TitleBar.Data
import TitleBar.Data.Json
import TitleBar.Data.Line
import TitleBar.DebugMode
import TitleBar.Decimal.Double
import TitleBar.Decimal.Places
import TitleBar.Decimal.Shortest
import TitleBar.Digest
import TitleBar.Glob
import TitleBar.Glob.Expression
import TitleBar.Host.Environment
import TitleBar.Host.Files
import TitleBar.Host.Launch
import TitleBar.Host.Locations
import TitleBar.Host.Process
import TitleBar.Host.Programs
import TitleBar.Host.Tools
import TitleBar.Main
import TitleBar.Path
import TitleBar.Predicate
import TitleBar.Proofs.Color.Notation
import TitleBar.Proofs.Glob.Matching
import TitleBar.Proofs.Glob.Translation
import TitleBar.Proofs.Path.Ancestors
import TitleBar.Proofs.Path.Parts
import TitleBar.Proofs.Predicate.Written
import TitleBar.Proofs.Repository.Background
import TitleBar.Proofs.Repository.Binding
import TitleBar.Proofs.Repository.Commit
import TitleBar.Proofs.Repository.Consistency
import TitleBar.Proofs.Repository.Groups
import TitleBar.Proofs.Repository.Latest
import TitleBar.Proofs.Repository.Listing
import TitleBar.Proofs.Repository.Moves
import TitleBar.Proofs.Repository.Nearest
import TitleBar.Proofs.Repository.Notices
import TitleBar.Proofs.Repository.Operations
import TitleBar.Proofs.Repository.Resources
import TitleBar.Proofs.Repository.Tickets
import TitleBar.Proofs.Repository.Updates
import TitleBar.Proofs.Repository.Views
import TitleBar.Proofs.Resolver.Agreement
import TitleBar.Proofs.Resolver.Gate
import TitleBar.Proofs.Resolver.Ownership
import TitleBar.Proofs.Rule.Blocks
import TitleBar.Proofs.Rule.Document
import TitleBar.Proofs.Rule.Precedence
import TitleBar.Proofs.Session.Audience
import TitleBar.Proofs.Session.Coherence
import TitleBar.Proofs.Session.Moves
import TitleBar.Proofs.Session.Predicates
import TitleBar.Proofs.Shell.Arithmetic
import TitleBar.Proofs.Shell.Effect
import TitleBar.Proofs.Shell.Fields
import TitleBar.Proofs.Shell.Isolation
import TitleBar.Proofs.Shell.Pattern
import TitleBar.Proofs.Shell.Regex
import TitleBar.Proofs.Shell.Sort
import TitleBar.Proofs.Shell.Stream
import TitleBar.Proofs.Tag.Identifier
import TitleBar.Proofs.Tag.Readers
import TitleBar.Proofs.Tag.Slice
import TitleBar.Proofs.Template.Branch
import TitleBar.Proofs.Template.Call
import TitleBar.Proofs.Template.Chunks
import TitleBar.Proofs.Template.Condition
import TitleBar.Proofs.Template.Conditional
import TitleBar.Proofs.Template.Course
import TitleBar.Proofs.Template.Cursor
import TitleBar.Proofs.Template.Engine
import TitleBar.Proofs.Template.Escape
import TitleBar.Proofs.Template.Extension
import TitleBar.Proofs.Template.Joined
import TitleBar.Proofs.Template.Leap
import TitleBar.Proofs.Template.Limit
import TitleBar.Proofs.Template.Lookahead
import TitleBar.Proofs.Template.Nesting
import TitleBar.Proofs.Template.Opaque
import TitleBar.Proofs.Template.Piece
import TitleBar.Proofs.Template.Progress
import TitleBar.Proofs.Template.Quotes
import TitleBar.Proofs.Template.Search
import TitleBar.Proofs.Template.Token
import TitleBar.Proofs.Template.Walk
import TitleBar.Proofs.Text.Pieces
import TitleBar.Proofs.Watch.Bursts
import TitleBar.Proofs.Watch.Metadata
import TitleBar.Proofs.Watch.Notice
import TitleBar.Proofs.Watch.Reload
import TitleBar.Proofs.Watch.RuleFile
import TitleBar.Repository.Backend
import TitleBar.Repository.Git
import TitleBar.Repository.Machine
import TitleBar.Repository.Marker
import TitleBar.Repository.Perforce
import TitleBar.Repository.Script
import TitleBar.Repository.Subversion
import TitleBar.Repository.Tracker
import TitleBar.Repository.Versionr
import TitleBar.Resolver
import TitleBar.Resolver.Ide
import TitleBar.Resolver.Lookup
import TitleBar.Resolver.OpenSolution
import TitleBar.Resolver.Registry
import TitleBar.Resolver.Table
import TitleBar.Rule
import TitleBar.Rule.Document
import TitleBar.Rule.Library
import TitleBar.Session
import TitleBar.SettingsFile
import TitleBar.Shell.Arithmetic
import TitleBar.Shell.Batch
import TitleBar.Shell.Builtin
import TitleBar.Shell.Call
import TitleBar.Shell.CharClass
import TitleBar.Shell.Edit
import TitleBar.Shell.Edit.Reader
import TitleBar.Shell.Editor
import TitleBar.Shell.Effect
import TitleBar.Shell.Expansion
import TitleBar.Shell.Filter
import TitleBar.Shell.Layout
import TitleBar.Shell.Manage
import TitleBar.Shell.Number
import TitleBar.Shell.OptionScan
import TitleBar.Shell.Pattern
import TitleBar.Shell.Print
import TitleBar.Shell.Program
import TitleBar.Shell.Redirection
import TitleBar.Shell.Regex
import TitleBar.Shell.Regex.Reader
import TitleBar.Shell.Run
import TitleBar.Shell.Search
import TitleBar.Shell.Sort
import TitleBar.Shell.State
import TitleBar.Shell.Stream
import TitleBar.Shell.Token
import TitleBar.Shell.Translate
import TitleBar.Shell.Utility
import TitleBar.Shell.Word
import TitleBar.Shell.WordExpression
import TitleBar.Solution
import TitleBar.Tag
import TitleBar.Template.Closing
import TitleBar.Template.Expand
import TitleBar.Template.Opening
import TitleBar.Template.Syntax
import TitleBar.Text.Alphanumeric
import TitleBar.Text.Blank
import TitleBar.Text.CaseRun
import TitleBar.Text.Folding
import TitleBar.Text.JsonString
import TitleBar.Text.Lines
import TitleBar.Text.Lowercase
import TitleBar.Text.Quoted
import TitleBar.Text.Styled
import TitleBar.Text.Utf8
import TitleBar.Timeline
import TitleBar.Toml
import TitleBar.Toml.Document
import TitleBar.Toml.Entries
import TitleBar.Toml.Line
import TitleBar.Toml.Quoted
import TitleBar.Toml.Scalar
import TitleBar.Trace
import TitleBar.Watch.Debounce
import TitleBar.Watch.Filter
import TitleBar.Watch.Watcher
