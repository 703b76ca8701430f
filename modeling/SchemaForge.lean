import SchemaForge.Cli.Arguments
import SchemaForge.Cli.Failure
import SchemaForge.Cli.Report
import SchemaForge.Cli.Run
import SchemaForge.Error
import SchemaForge.FileSystem
import SchemaForge.Generation.Context
import SchemaForge.Generation.Data
import SchemaForge.Generation.Generator
import SchemaForge.Generation.Options
import SchemaForge.Generation.Renderer
import SchemaForge.Includes
import SchemaForge.Json.Basic
import SchemaForge.Json.Parser
import SchemaForge.Json.Printer
import SchemaForge.Language.Basic
import SchemaForge.Layout
import SchemaForge.Main
import SchemaForge.Namespace.Tree
import SchemaForge.Namespace.Walk
import SchemaForge.Naming.Encoder
import SchemaForge.Naming.Unique
import SchemaForge.Number.Binary64
import SchemaForge.Number.Reading
import SchemaForge.Number.Shortest
import SchemaForge.Output.Chain
import SchemaForge.Output.Destination
import SchemaForge.Output.Line
import SchemaForge.Output.Permission
import SchemaForge.Output.Processor
import SchemaForge.Output.Program
import SchemaForge.Output.Shell
import SchemaForge.Output.Writer
import SchemaForge.Path
import SchemaForge.Pattern.Basic
import SchemaForge.Pattern.CharClass
import SchemaForge.Pattern.Parser
import SchemaForge.Pattern.Syntax
import SchemaForge.Rules.Basic
import SchemaForge.Rules.Decode
import SchemaForge.Rules.Error
import SchemaForge.Rules.Load
import SchemaForge.Rules.Span
import SchemaForge.Schema.Basic
import SchemaForge.Schema.Catalog
import SchemaForge.Schema.Dependencies
import SchemaForge.Schema.Document
import SchemaForge.Schema.Sample
import SchemaForge.Target.Builtin
import SchemaForge.Target.Tables
import SchemaForge.Target.Templates
import SchemaForge.Template.Basic
import SchemaForge.Template.Engine
import SchemaForge.Template.Expression
import SchemaForge.Template.Helper
import SchemaForge.Template.Kind
import SchemaForge.Template.Literal
import SchemaForge.Template.Output
import SchemaForge.Template.Parser
import SchemaForge.Template.Render
import SchemaForge.Template.Resolver
import SchemaForge.Template.Scope
import SchemaForge.Template.Source
import SchemaForge.Template.Symbol
import SchemaForge.Template.Tag
import SchemaForge.Text.Blank
import SchemaForge.Text.Case
import SchemaForge.Text.CaseTable
import SchemaForge.Text.Dotted
import SchemaForge.Text.Fold
import SchemaForge.Text.FoldTable
import SchemaForge.Text.Quoted
import SchemaForge.Text.ShapelessTable
import SchemaForge.Text.Snake
import SchemaForge.Text.Timestamp
import SchemaForge.Text.Utf8
import SchemaForge.Text.WordTable
import SchemaForge.Toml.Basic
import SchemaForge.Toml.Document
import SchemaForge.Toml.Moment
import SchemaForge.Toml.Parser
import SchemaForge.Proofs.Output.Pieces
import SchemaForge.Namespace.Basic
import SchemaForge.Proofs.Schema.Reachability
import SchemaForge.Proofs.Text.ByteOrder
import SchemaForge.Proofs.Text.Dotted
import SchemaForge.Proofs.Namespace.Building
import SchemaForge.Proofs.Namespace.Shape
import SchemaForge.Proofs.Namespace.Search
import SchemaForge.Measure
import SchemaForge.Proofs.Namespace.Walk
import SchemaForge.Proofs.Naming.Builtin
import SchemaForge.Proofs.Naming.Doubled
import SchemaForge.Proofs.Naming.Identifiers
import SchemaForge.Proofs.Naming.Reserved
import SchemaForge.Proofs.Pattern.Meaning
import SchemaForge.Proofs.Pattern.Shapes
import SchemaForge.Proofs.Naming.Starts
import SchemaForge.Proofs.Naming.Underscores
import SchemaForge.Proofs.Naming.Enclosed
import SchemaForge.Proofs.Generation.Run
import SchemaForge.Proofs.Generation.DryRun
import SchemaForge.Proofs.Files.Location
import SchemaForge.Proofs.Files.Frame
import SchemaForge.Proofs.Files.Growth
import SchemaForge.Proofs.Naming.Numbered
import SchemaForge.Proofs.Output.Processors
import SchemaForge.Proofs.Layout
import SchemaForge.Proofs.Generation.Overwriting
import SchemaForge.Proofs.Generation.Refusing
import SchemaForge.Proofs.Template.Parts
import SchemaForge.Proofs.Generation.Makings
import SchemaForge.Proofs.Generation.Compiled
import SchemaForge.Proofs.Output.Resetting
import SchemaForge.Proofs.Generation.Independence
import SchemaForge.Proofs.Template.Resolving
import SchemaForge.Proofs.Toml.Distinct
import SchemaForge.Proofs.Rules.Overlay
import SchemaForge.Proofs.Output.Tidying
import SchemaForge.Proofs.Json.RoundTrip
import SchemaForge.Proofs.Json.Arranged
import SchemaForge.Proofs.Schema.Document
import SchemaForge.Proofs.Files.Components
import SchemaForge.Proofs.Namespace.Sources
import SchemaForge.Proofs.Namespace.Outputs
import SchemaForge.Proofs.Includes
import SchemaForge.Proofs.Naming.Legal
import SchemaForge.Proofs.Namespace.TypePaths
import SchemaForge.Proofs.Namespace.Names
import SchemaForge.Proofs.Target.CppHeader
import SchemaForge.Proofs.Target.CppNames
import SchemaForge.Proofs.Naming.History
import SchemaForge.Proofs.Output.Limiting
import SchemaForge.Proofs.Output.Contract
import SchemaForge.Proofs.Target.PythonTree
import SchemaForge.Proofs.Target.PythonFile
import SchemaForge.Proofs.Target.PythonNames
import SchemaForge.Proofs.Schema.Expansion
import SchemaForge.Proofs.Output.Gathering
import SchemaForge.Proofs.Text.Boundaries
import SchemaForge.Proofs.Rules.Spans
import SchemaForge.Proofs.Text.Snake
