import Stylesheet.CommandLine.Arguments
import Stylesheet.CommandLine.Footprint
import Stylesheet.CommandLine.Run
import Stylesheet.Compile.Compiler
import Stylesheet.Compile.InlineCompiler
import Stylesheet.Compile.LineCompiler
import Stylesheet.Compile.Request
import Stylesheet.Config
import Stylesheet.Config.Description
import Stylesheet.Decimal.Shortest
import Stylesheet.Dependency.Cache
import Stylesheet.Dependency.ScanResult
import Stylesheet.Dependency.Walk
import Stylesheet.Diagnostic
import Stylesheet.Dialect
import Stylesheet.Disk.Edit
import Stylesheet.Disk.Lookup
import Stylesheet.Disk.Node
import Stylesheet.DomainName.Direction
import Stylesheet.DomainName.Joining
import Stylesheet.DomainName.Label
import Stylesheet.DomainName.Mark
import Stylesheet.DomainName.Punycode
import Stylesheet.DomainName.Refused
import Stylesheet.DomainName.Replacement
import Stylesheet.Failure
import Stylesheet.FileSystem.Basic
import Stylesheet.FileSystem.Disk
import Stylesheet.FileSystem.Memory
import Stylesheet.Hooks
import Stylesheet.Ignore.Expression
import Stylesheet.Ignore.Glob
import Stylesheet.Ignore.GlobText
import Stylesheet.Ignore.Layers
import Stylesheet.Ignore.Rules
import Stylesheet.Importer.Basic
import Stylesheet.IoError
import Stylesheet.Json.Basic
import Stylesheet.Json.Escape
import Stylesheet.Json.Number
import Stylesheet.Json.Parser
import Stylesheet.Json.Printer
import Stylesheet.Lookup
import Stylesheet.Main
import Stylesheet.Package.Manifest
import Stylesheet.Package.Resolver
import Stylesheet.Package.Specifier
import Stylesheet.Path.Basic
import Stylesheet.Path.Clean
import Stylesheet.Path.Relative
import Stylesheet.Project.Entries
import Stylesheet.Project.Scan
import Stylesheet.Project.Walk
import Stylesheet.Proofs.Compile.Expansion
import Stylesheet.Proofs.Dependency.Exploration
import Stylesheet.Proofs.Dependency.Reachability
import Stylesheet.Proofs.Dependency.Search
import Stylesheet.Proofs.Dependency.Session
import Stylesheet.Proofs.Dependency.Unfolding
import Stylesheet.Proofs.Importer.Answers
import Stylesheet.Proofs.Importer.Directories
import Stylesheet.Proofs.Path.Joining
import Stylesheet.Proofs.Path.Naming
import Stylesheet.Proofs.Path.Spelling
import Stylesheet.Proofs.Render.WatchFiles
import Stylesheet.Proofs.Scan.Bodies
import Stylesheet.Proofs.Scan.ImportLines
import Stylesheet.Proofs.Scan.Printing
import Stylesheet.Proofs.Scan.Reading
import Stylesheet.Proofs.Scan.Veiled
import Stylesheet.Proofs.Text.Pieces
import Stylesheet.Render.Renderer
import Stylesheet.Render.Warnings
import Stylesheet.Report.Tree
import Stylesheet.Scan.Arguments
import Stylesheet.Scan.Comments
import Stylesheet.Scan.Imports
import Stylesheet.SourceMap.Basic
import Stylesheet.SourceMap.Located
import Stylesheet.Text.Base64
import Stylesheet.Text.Blank
import Stylesheet.Text.CombiningClass
import Stylesheet.Text.Composed
import Stylesheet.Text.Composite
import Stylesheet.Text.Hex
import Stylesheet.Text.Lines
import Stylesheet.Text.Percent
import Stylesheet.Text.Printable
import Stylesheet.Text.Quoted
import Stylesheet.Text.Slice
import Stylesheet.Text.Split
import Stylesheet.Text.Styled
import Stylesheet.Text.Utf8
import Stylesheet.Trace
import Stylesheet.Url.Basic
import Stylesheet.Url.FilePath
import Stylesheet.Url.Host
import Stylesheet.Url.Parser
import Stylesheet.Proofs.Importer.Meaning
import Stylesheet.Proofs.Importer.SearchOrder
import Stylesheet.Proofs.Path.Rooted
import Stylesheet.Proofs.Url.FileUrl
import Stylesheet.Proofs.Importer.CanonicalUrl
import Stylesheet.Proofs.Importer.ContainingUrl
import Stylesheet.Proofs.Importer.EmbeddedPackage
import Stylesheet.Proofs.Json.ReadBack
import Stylesheet.Proofs.SourceMap.ReadBack
import Stylesheet.Proofs.Render.InlinedMap
import Stylesheet.Proofs.Path.Order
import Stylesheet.Proofs.Disk.Capacity
import Stylesheet.Proofs.Dependency.Scanned
import Stylesheet.Proofs.Project.Entries
import Stylesheet.Proofs.Project.ScanOrder
import Stylesheet.Proofs.Importer.Footprint
import Stylesheet.Proofs.Url.Web
import Stylesheet.Proofs.Url.Foreign
import Stylesheet.Proofs.Dependency.Rounds
import Stylesheet.Proofs.Dependency.Termination
import Stylesheet.Proofs.Dependency.Preorder
import Stylesheet.Proofs.Path.Ancestors
import Stylesheet.Proofs.Lookup.Plan
import Stylesheet.Proofs.FileSystem.Additions
import Stylesheet.Proofs.Lookup.Guards
import Stylesheet.Proofs.Lookup.Extension
import Stylesheet.Proofs.Importer.NormalForm
import Stylesheet.Proofs.Package.Nearest
import Stylesheet.Proofs.Scan.Neutral
import Stylesheet.Proofs.Package.Inside
import Stylesheet.Proofs.Scan.OpenStatement
import Stylesheet.Proofs.Scan.Addresses
import Stylesheet.Proofs.Path.Relative
import Stylesheet.Proofs.Path.Shown
import Stylesheet.Proofs.Url.Dotted
import Stylesheet.Proofs.SourceMap.Located
import Stylesheet.Proofs.Url.FileHost
import Stylesheet.Proofs.SourceMap.Settled
import Stylesheet.Proofs.Project.Below
import Stylesheet.Proofs.Project.Collected
import Stylesheet.Proofs.Text.Styled
import Stylesheet.Proofs.Report.Faithful
import Stylesheet.Proofs.Text.Slice
import Stylesheet.Proofs.Package.Grammar
import Stylesheet.Proofs.Scan.Spans
import Stylesheet.Proofs.Scan.Cuts
