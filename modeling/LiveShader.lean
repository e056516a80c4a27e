import LiveShader.CommandLine
import LiveShader.CommandLine.Arguments
import LiveShader.CommandLine.Check
import LiveShader.CommandLine.Flatten
import LiveShader.CommandLine.Output
import LiveShader.Compiler
import LiveShader.Compiler.Scripted
import LiveShader.Decimal.Binary
import LiveShader.Decimal.Shortest
import LiveShader.Diagnostic.Format
import LiveShader.Diagnostic.Report
import LiveShader.Failure
import LiveShader.FileTree
import LiveShader.FileTree.Edit
import LiveShader.Glsl.Compiler
import LiveShader.Glsl.Interface
import LiveShader.Journal
import LiveShader.Json
import LiveShader.Mailbox
import LiveShader.Main
import LiveShader.Path
import LiveShader.Proofs.Diagnostic.Exactness
import LiveShader.Proofs.Diagnostic.Flagged
import LiveShader.Proofs.Diagnostic.Paren
import LiveShader.Proofs.FileTree.Canonical
import LiveShader.Proofs.FileTree.Canonicalization
import LiveShader.Proofs.FileTree.Frame
import LiveShader.Proofs.FileTree.Moments
import LiveShader.Proofs.FileTree.Walk
import LiveShader.Proofs.Numbering
import LiveShader.Proofs.Provenance.Origins
import LiveShader.Proofs.Provenance.Segments
import LiveShader.Proofs.Resolution.Attribution
import LiveShader.Proofs.Resolution.Closure
import LiveShader.Proofs.Resolution.Course
import LiveShader.Proofs.Resolution.Coverage
import LiveShader.Proofs.Resolution.Emission
import LiveShader.Proofs.Resolution.Freshness
import LiveShader.Proofs.Resolution.IncludeGraph
import LiveShader.Proofs.Resolution.Reachability
import LiveShader.Proofs.Resolution.Unfolding
import LiveShader.Proofs.Shader.Build
import LiveShader.Proofs.Shader.Loading
import LiveShader.Proofs.Text.Lines
import LiveShader.Proofs.Watcher.HotReload
import LiveShader.Provenance
import LiveShader.Provenance.Segment
import LiveShader.Resolution.Basic
import LiveShader.Resolution.Expansion
import LiveShader.Settings
import LiveShader.Settings.Decoding
import LiveShader.Settings.File
import LiveShader.Settings.Rejection
import LiveShader.Shader
import LiveShader.Shader.Build
import LiveShader.Shader.LoadFailure
import LiveShader.SourceLine
import LiveShader.Stamp
import LiveShader.Text.Blank
import LiveShader.Text.Digit
import LiveShader.Text.Lines
import LiveShader.Text.Printable
import LiveShader.Text.Quoted
import LiveShader.Text.Split
import LiveShader.UserError
import LiveShader.Watcher
import LiveShader.Yaml.CoreSchema
import LiveShader.Yaml.Cursor
import LiveShader.Yaml.Document
import LiveShader.Yaml.Event
import LiveShader.Yaml.Flaw
import LiveShader.Yaml.Scalar.Block
import LiveShader.Yaml.Scalar.Flow
import LiveShader.Yaml.Tag
import LiveShader.Yaml.Token
import LiveShader.Yaml.Token.Reading
import LiveShader.Proofs.Provenance.Log
import LiveShader.Proofs.Shader.Calls
import LiveShader.Proofs.Shader.Reloading
import LiveShader.Proofs.Resolution.Nesting
import LiveShader.Proofs.Resolution.Limits
import LiveShader.Proofs.FileTree.Links
import LiveShader.Proofs.Shader.Verdict
import LiveShader.Proofs.Shader.Retargeting
import LiveShader.Proofs.Json.Reading
import LiveShader.Proofs.CommandLine.Check
import LiveShader.Proofs.CommandLine.Agreement
import LiveShader.Proofs.CommandLine.Envelope
import LiveShader.Proofs.Provenance.Extents
import LiveShader.Proofs.Resolution.Laminarity
import LiveShader.Proofs.Resolution.Halting
import LiveShader.Proofs.Resolution.Pasting
import LiveShader.Proofs.CommandLine.Vantage
import LiveShader.Proofs.Resolution.Entrances
import LiveShader.Proofs.Diagnostic.Accounting
import LiveShader.Proofs.Glsl.Diagnostics
import LiveShader.Proofs.Watcher.Directories
import LiveShader.Proofs.Watcher.Ticks
import LiveShader.Proofs.Diagnostic.Grammar
import LiveShader.Proofs.Glsl.Linking
import LiveShader.Proofs.Resolution.Flattened
import LiveShader.Proofs.Resolution.Display
import LiveShader.Proofs.Resolution.Endings
import LiveShader.Proofs.Resolution.Canonical
