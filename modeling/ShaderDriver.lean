import ShaderDriver.Artifact.Kind
import ShaderDriver.Artifact.Table
import ShaderDriver.Cli.Arguments
import ShaderDriver.Cli.Job
import ShaderDriver.Cli.Options
import ShaderDriver.Cli.Report
import ShaderDriver.Cli.Run
import ShaderDriver.Cli.Settings
import ShaderDriver.Compiler.Cleanup
import ShaderDriver.Compiler.External
import ShaderDriver.Compiler.Include
import ShaderDriver.Compiler.Library
import ShaderDriver.Compiler.Staging
import ShaderDriver.Compiler.State
import ShaderDriver.Config.Basic
import ShaderDriver.Config.Decode
import ShaderDriver.Config.Load
import ShaderDriver.Decode.Error
import ShaderDriver.Diagnostic.Basic
import ShaderDriver.Diagnostic.Parser
import ShaderDriver.Diagnostic.Segment
import ShaderDriver.Diagnostic.Severity
import ShaderDriver.Diagnostic.Span
import ShaderDriver.Digest.Xxh3
import ShaderDriver.Json.Parser
import ShaderDriver.Json.Printer
import ShaderDriver.Json.Value
import ShaderDriver.Main
import ShaderDriver.Number.Binary64
import ShaderDriver.Number.Shortest
import ShaderDriver.Profile
import ShaderDriver.Proofs.Cli.Invocation
import ShaderDriver.Proofs.Cli.Merging
import ShaderDriver.Proofs.Cli.Records
import ShaderDriver.Proofs.Cli.Reporting
import ShaderDriver.Proofs.Compiler.Agreement
import ShaderDriver.Proofs.Compiler.Arguments
import ShaderDriver.Proofs.Compiler.Delivery
import ShaderDriver.Proofs.Compiler.Forgetting
import ShaderDriver.Proofs.Compiler.Independence
import ShaderDriver.Proofs.Compiler.Interfaces
import ShaderDriver.Proofs.Compiler.LibraryOutputs
import ShaderDriver.Proofs.Compiler.LibrarySession
import ShaderDriver.Proofs.Compiler.Naming
import ShaderDriver.Proofs.Compiler.Outcomes
import ShaderDriver.Proofs.Compiler.Requests
import ShaderDriver.Proofs.Compiler.Session
import ShaderDriver.Proofs.Compiler.Staging
import ShaderDriver.Proofs.Compiler.Substitution
import ShaderDriver.Proofs.Compiler.Temporaries
import ShaderDriver.Proofs.Config.Acceptance
import ShaderDriver.Proofs.Config.Artifacts
import ShaderDriver.Proofs.Config.Profiles
import ShaderDriver.Proofs.Config.Resolution
import ShaderDriver.Proofs.Diagnostic.Display
import ShaderDriver.Proofs.Diagnostic.Grammar
import ShaderDriver.Proofs.Diagnostic.LineEndings
import ShaderDriver.Proofs.Diagnostic.Offsets
import ShaderDriver.Proofs.Diagnostic.Pieces
import ShaderDriver.Proofs.Diagnostic.Reading
import ShaderDriver.Proofs.Diagnostic.Renaming
import ShaderDriver.Proofs.Diagnostic.Reparsing
import ShaderDriver.Proofs.Diagnostic.RoundTrip
import ShaderDriver.Proofs.Diagnostic.Segmentation
import ShaderDriver.Proofs.Json.Items
import ShaderDriver.Proofs.Subprocess.Capture
import ShaderDriver.Proofs.Subprocess.Commands
import ShaderDriver.Proofs.Subprocess.Interleaving
import ShaderDriver.Proofs.Text.Case
import ShaderDriver.Proofs.Text.Numerals
import ShaderDriver.Proofs.Text.Occurrence
import ShaderDriver.Proofs.Text.Replacement
import ShaderDriver.Proofs.Text.Scanning
import ShaderDriver.Proofs.Text.Utf8
import ShaderDriver.Proofs.Toolchain.Catalog
import ShaderDriver.Proofs.Toolchain.Deliveries
import ShaderDriver.Proofs.Toolchain.Descriptions
import ShaderDriver.Proofs.Toolchain.Inquiries
import ShaderDriver.Proofs.Toolchain.Installation
import ShaderDriver.Proofs.Toolchain.Listings
import ShaderDriver.Proofs.Toolchain.Order
import ShaderDriver.Proofs.Toolchain.Scan
import ShaderDriver.Proofs.Toolchain.Spelling
import ShaderDriver.Proofs.World.Attempts
import ShaderDriver.Proofs.World.Changes
import ShaderDriver.Proofs.World.Files
import ShaderDriver.Proofs.World.Listing
import ShaderDriver.Proofs.World.Parents
import ShaderDriver.Proofs.World.Places
import ShaderDriver.Proofs.World.Writing
import ShaderDriver.Shell.Arithmetic
import ShaderDriver.Shell.Expansion
import ShaderDriver.Shell.Format
import ShaderDriver.Shell.Interpreter
import ShaderDriver.Shell.Launch
import ShaderDriver.Shell.Parser
import ShaderDriver.Shell.Pattern
import ShaderDriver.Shell.Script
import ShaderDriver.Shell.State
import ShaderDriver.Shell.Syntax
import ShaderDriver.Shell.Token
import ShaderDriver.Shell.Utility
import ShaderDriver.Shell.Word
import ShaderDriver.Subprocess
import ShaderDriver.Summary
import ShaderDriver.Text.Blank
import ShaderDriver.Text.Numeral
import ShaderDriver.Text.Quoted
import ShaderDriver.Text.Scan
import ShaderDriver.Text.Search
import ShaderDriver.Text.Utf8
import ShaderDriver.Toml.Grammar
import ShaderDriver.Toml.Node
import ShaderDriver.Toml.Parser
import ShaderDriver.Toolchain.Catalog
import ShaderDriver.Toolchain.Error
import ShaderDriver.Toolchain.Installation
import ShaderDriver.Toolchain.Release
import ShaderDriver.Toolchain.Version
import ShaderDriver.World.Basic
import ShaderDriver.World.Fault
import ShaderDriver.World.Path
import ShaderDriver.World.Tree
