import DocSamples.Check.Basic
import DocSamples.Check.Documents
import DocSamples.CommandLine.Argument
import DocSamples.CommandLine.BuildRun
import DocSamples.CommandLine.Check
import DocSamples.CommandLine.Report
import DocSamples.Config.Basic
import DocSamples.Config.BuildRun
import DocSamples.Config.Toolchain
import DocSamples.Document.Basic
import DocSamples.Document.Directory
import DocSamples.Document.Revision
import DocSamples.Document.Source
import DocSamples.Document.Stream
import DocSamples.Machine.Archive
import DocSamples.Machine.Basic
import DocSamples.Machine.FileTree
import DocSamples.Machine.FileTree.Edit
import DocSamples.Machine.Loading
import DocSamples.Machine.Program
import DocSamples.Machine.Session
import DocSamples.Machine.Shell.Arithmetic
import DocSamples.Machine.Shell.Builtin
import DocSamples.Machine.Shell.Evaluator
import DocSamples.Machine.Shell.Format
import DocSamples.Machine.Shell.Pattern
import DocSamples.Machine.Shell.Reader
import DocSamples.Machine.Shell.Script
import DocSamples.Machine.Shell.State
import DocSamples.Machine.Utility
import DocSamples.Main
import DocSamples.Path.Artifact
import DocSamples.Path.Basic
import DocSamples.Program.BuildRun
import DocSamples.Sample.Basic
import DocSamples.Sample.Mode
import DocSamples.Sample.Scanner
import DocSamples.System.Error
import DocSamples.System.ExitCode
import DocSamples.System.Host
import DocSamples.Text.Basic
import DocSamples.Text.Blank
import DocSamples.Text.PrintTable
import DocSamples.Text.Quoted
import DocSamples.Text.Utf8
import DocSamples.Text.Word
import DocSamples.Text.WordTable
import DocSamples.Toml.Line
import DocSamples.Toml.Quoted
import DocSamples.Toml.Reader
import DocSamples.Toml.Scalar
import DocSamples.Toml.Value
import DocSamples.Tool.Error
import DocSamples.Tool.Feed
import DocSamples.Tool.Status
import DocSamples.Tool.Toolchain
import DocSamples.Proofs.Sample.Blocks
import DocSamples.Proofs.Sample.Extraction
import DocSamples.Proofs.Check.Record
import DocSamples.Proofs.Check.Verdict
import DocSamples.Proofs.Check.Cause
import DocSamples.Proofs.CommandLine.ExitCode
import DocSamples.Proofs.Sample.Renumbering
import DocSamples.Proofs.Sample.Sections
import DocSamples.Proofs.Sample.Rendering
import DocSamples.Proofs.Text.Utf8
import DocSamples.Proofs.Document.Tree
import DocSamples.Proofs.Document.Walk
import DocSamples.Proofs.Document.Opening
import DocSamples.Proofs.Check.Launch
import DocSamples.Proofs.Program.BuildRun
import DocSamples.Proofs.CommandLine.StepCode
import DocSamples.Proofs.Document.Revision
import DocSamples.Proofs.Document.Thinning
import DocSamples.Proofs.Machine.Thinning
import DocSamples.Proofs.Text.Property
import DocSamples.Proofs.Sample.Mode
import DocSamples.Proofs.Check.Append
import DocSamples.Proofs.Check.Tally
import DocSamples.Proofs.Sample.Growth
import DocSamples.Proofs.Sample.EmptyLines
import DocSamples.Proofs.Sample.Rewording
import DocSamples.Proofs.Check.Rewording
import DocSamples.Proofs.Sample.CarriageReturn
import DocSamples.Proofs.Text.Decoding
import DocSamples.Proofs.Document.PhysicalLines
import DocSamples.Proofs.Path.Components
import DocSamples.Proofs.Path.Absolute
import DocSamples.Proofs.Path.Extension
import DocSamples.Proofs.Program.Artifact
import DocSamples.Proofs.Toml.Reader
import DocSamples.Proofs.Config.RoundTrip
import DocSamples.Proofs.Sample.Resumption
import DocSamples.Proofs.CommandLine.Forwarding
import DocSamples.Proofs.Tool.Child
import DocSamples.Proofs.Tool.Delivery
import DocSamples.Proofs.Tool.Verdict
import DocSamples.Proofs.Toml.Spelling
import DocSamples.Proofs.Toml.Token
import DocSamples.Proofs.Toml.Scalar
import DocSamples.Proofs.Toml.Nesting
import DocSamples.Proofs.Toml.Writing
import DocSamples.Proofs.Config.Acceptance
import DocSamples.Proofs.Text.Lookup
