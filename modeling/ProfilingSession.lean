import ProfilingSession.Catalog
import ProfilingSession.Channels
import ProfilingSession.Collection
import ProfilingSession.CommandLine.Execution
import ProfilingSession.CommandLine.Explanation
import ProfilingSession.CommandLine.Footprint
import ProfilingSession.CommandLine.Grammar
import ProfilingSession.CommandLine.Invocation
import ProfilingSession.CommandLine.RunOptions
import ProfilingSession.CommandLine.Usage
import ProfilingSession.CommandLine.Value
import ProfilingSession.Decimal.Binary64
import ProfilingSession.Decimal.Rounding
import ProfilingSession.Decimal.Shortest
import ProfilingSession.Declaration
import ProfilingSession.Document
import ProfilingSession.Document.Format
import ProfilingSession.Document.Json.Fault
import ProfilingSession.Document.Json.Number
import ProfilingSession.Document.Json.Reader
import ProfilingSession.Document.Yaml.Cursor
import ProfilingSession.Document.Yaml.Lexer
import ProfilingSession.Document.Yaml.Reader
import ProfilingSession.Document.Yaml.Resolve
import ProfilingSession.Document.Yaml.Scalar
import ProfilingSession.Document.Yaml.Token
import ProfilingSession.Document.Yaml.Tree
import ProfilingSession.Duration
import ProfilingSession.Executable
import ProfilingSession.FileTree.Basic
import ProfilingSession.FileTree.Cause
import ProfilingSession.FileTree.Change
import ProfilingSession.FileTree.Difference
import ProfilingSession.FileTree.Node
import ProfilingSession.FileTree.Path
import ProfilingSession.FileTree.Sketch
import ProfilingSession.Generation
import ProfilingSession.Header
import ProfilingSession.HeaderSet
import ProfilingSession.Machine
import ProfilingSession.Main
import ProfilingSession.Preflight
import ProfilingSession.Profiler
import ProfilingSession.Proofs.Catalog.Contract
import ProfilingSession.Proofs.Catalog.RoundTrip
import ProfilingSession.Proofs.Catalog.WellFormed
import ProfilingSession.Proofs.Channels.Candidates
import ProfilingSession.Proofs.Channels.History
import ProfilingSession.Proofs.Channels.Interleaving
import ProfilingSession.Proofs.Channels.Namespace
import ProfilingSession.Proofs.Channels.Release
import ProfilingSession.Proofs.Channels.Stages
import ProfilingSession.Proofs.Collection.Preservation
import ProfilingSession.Proofs.CommandLine.Consistency
import ProfilingSession.Proofs.CommandLine.ExitCodes
import ProfilingSession.Proofs.CommandLine.PassedOn
import ProfilingSession.Proofs.CommandLine.Phases
import ProfilingSession.Proofs.CommandLine.Quoting
import ProfilingSession.Proofs.CommandLine.RunLine
import ProfilingSession.Proofs.CommandLine.Settling
import ProfilingSession.Proofs.CommandLine.Spelling
import ProfilingSession.Proofs.CommandLine.Values
import ProfilingSession.Proofs.CommandLine.Verdict
import ProfilingSession.Proofs.Decimal.Range
import ProfilingSession.Proofs.Decimal.Shortest
import ProfilingSession.Proofs.Declaration.Distinct
import ProfilingSession.Proofs.Declaration.Expansion
import ProfilingSession.Proofs.Declaration.Foreign
import ProfilingSession.Proofs.Declaration.Named
import ProfilingSession.Proofs.Declaration.Payload
import ProfilingSession.Proofs.Declaration.Preprocessor
import ProfilingSession.Proofs.Declaration.Record
import ProfilingSession.Proofs.Declaration.Respelling
import ProfilingSession.Proofs.Declaration.Signature
import ProfilingSession.Proofs.Declaration.Whole
import ProfilingSession.Proofs.Document.Equality
import ProfilingSession.Proofs.Document.Finite
import ProfilingSession.Proofs.Document.JsonLines
import ProfilingSession.Proofs.Document.JsonNumbers
import ProfilingSession.Proofs.Document.JsonScalars
import ProfilingSession.Proofs.Document.JsonText
import ProfilingSession.Proofs.Document.Parts
import ProfilingSession.Proofs.Document.RepeatedKey
import ProfilingSession.Proofs.Document.Repeats
import ProfilingSession.Proofs.Document.Traversal
import ProfilingSession.Proofs.Fallible
import ProfilingSession.Proofs.FileTree.Agreement
import ProfilingSession.Proofs.FileTree.Entries
import ProfilingSession.Proofs.FileTree.Growth
import ProfilingSession.Proofs.FileTree.Moving
import ProfilingSession.Proofs.FileTree.Removal
import ProfilingSession.Proofs.FileTree.Routes
import ProfilingSession.Proofs.FileTree.Ways
import ProfilingSession.Proofs.FileTree.Within
import ProfilingSession.Proofs.FileTree.Writing
import ProfilingSession.Proofs.Generation.Performance
import ProfilingSession.Proofs.Generation.Sources
import ProfilingSession.Proofs.Header.RoundTrip
import ProfilingSession.Proofs.HeaderSet.SameHeaders
import ProfilingSession.Proofs.Preflight.Sharding
import ProfilingSession.Proofs.Selection.Contract
import ProfilingSession.Proofs.Selection.WellFormed
import ProfilingSession.Proofs.Session.Answers
import ProfilingSession.Proofs.Session.Cleanup
import ProfilingSession.Proofs.Session.Deeds
import ProfilingSession.Proofs.Session.Ending
import ProfilingSession.Proofs.Session.Machines
import ProfilingSession.Proofs.Session.Record
import ProfilingSession.Proofs.Session.RunTime
import ProfilingSession.Proofs.Session.StartUp
import ProfilingSession.Proofs.Specification.Events
import ProfilingSession.Proofs.Specification.Kept
import ProfilingSession.Proofs.Specification.Refusals
import ProfilingSession.Proofs.Specification.ScalarBodies
import ProfilingSession.Proofs.Text.Identifiers
import ProfilingSession.Proofs.Text.Lines
import ProfilingSession.Proofs.Text.Occurrence
import ProfilingSession.Proofs.Text.Words
import ProfilingSession.Selection
import ProfilingSession.Session.Exit
import ProfilingSession.Session.Fault
import ProfilingSession.Session.Host
import ProfilingSession.Session.Plan
import ProfilingSession.Session.Report
import ProfilingSession.Session.Status
import ProfilingSession.Session.Supervision
import ProfilingSession.Session.Timeline
import ProfilingSession.Shell.Builtin
import ProfilingSession.Shell.Bytes
import ProfilingSession.Shell.Command
import ProfilingSession.Shell.Context
import ProfilingSession.Shell.Execution
import ProfilingSession.Shell.Format
import ProfilingSession.Shell.Interpreter
import ProfilingSession.Shell.Launch
import ProfilingSession.Shell.Process
import ProfilingSession.Shell.Program
import ProfilingSession.Shell.Redirection
import ProfilingSession.Shell.Signal
import ProfilingSession.Shell.Start
import ProfilingSession.Shell.Stream
import ProfilingSession.Shell.Test
import ProfilingSession.Shell.Token
import ProfilingSession.Shell.Utility
import ProfilingSession.Shell.Utility.Basic
import ProfilingSession.Shell.Utility.Files
import ProfilingSession.Shell.Word
import ProfilingSession.Specification.Problem
import ProfilingSession.Specification.Reading
import ProfilingSession.Specification.Stored
import ProfilingSession.Text.Extending
import ProfilingSession.Text.Quoted
import ProfilingSession.Text.Unprintable
import ProfilingSession.Text.Words
