import LayerAudit.Analysis.Basic
import LayerAudit.Analysis.Log
import LayerAudit.Cache
import LayerAudit.Collector
import LayerAudit.Command.Arguments
import LayerAudit.Command.Basic
import LayerAudit.Command.Run
import LayerAudit.Config.Basic
import LayerAudit.Config.Read
import LayerAudit.Config.Source
import LayerAudit.Facts.Basic
import LayerAudit.Facts.Extract
import LayerAudit.Facts.TypeScript
import LayerAudit.FileTree
import LayerAudit.Json.Basic
import LayerAudit.Json.Decode
import LayerAudit.Json.Read
import LayerAudit.Json.Write
import LayerAudit.Layer
import LayerAudit.Main
import LayerAudit.Mismatch
import LayerAudit.Named
import LayerAudit.Number.Binary
import LayerAudit.Path.Basic
import LayerAudit.Report.Format
import LayerAudit.Report.Text
import LayerAudit.Rule.Basic
import LayerAudit.Rule.ErrorInheritance
import LayerAudit.Rule.InterfaceConvention
import LayerAudit.Rule.LayerDependency
import LayerAudit.Rule.RepositoryPattern
import LayerAudit.Rule.ServicePattern
import LayerAudit.Rule.TypeQuality
import LayerAudit.Store
import LayerAudit.Syntax.Contextual
import LayerAudit.Syntax.Extent
import LayerAudit.Syntax.Fragment
import LayerAudit.Syntax.Grammar
import LayerAudit.Syntax.Node
import LayerAudit.Syntax.Parse
import LayerAudit.Syntax.Parser
import LayerAudit.Syntax.Recovery
import LayerAudit.Syntax.Scan
import LayerAudit.Syntax.Stack
import LayerAudit.Syntax.Token
import LayerAudit.Syntax.Tree
import LayerAudit.Syntax.TypeScript
import LayerAudit.Syntax.TypeScript.Actions
import LayerAudit.Syntax.TypeScript.Lexicon
import LayerAudit.Syntax.TypeScript.Productions
import LayerAudit.Syntax.TypeScript.States
import LayerAudit.Syntax.TypeScript.Symbols
import LayerAudit.Text.Blank
import LayerAudit.Text.Packed
import LayerAudit.Text.Quoted
import LayerAudit.Text.Utf8
import LayerAudit.Toml.Decode
import LayerAudit.Toml.Document
import LayerAudit.Toml.Excerpt
import LayerAudit.Toml.Record
import LayerAudit.Toml.Scalar
import LayerAudit.Toml.Value
import LayerAudit.Violation
import LayerAudit.Proofs.Analysis.Bystanders
import LayerAudit.Proofs.Analysis.Failures
import LayerAudit.Proofs.Analysis.ImportChains
import LayerAudit.Proofs.Analysis.Lines
import LayerAudit.Proofs.Analysis.OneFile
import LayerAudit.Proofs.Analysis.Order
import LayerAudit.Proofs.Analysis.Provenance
import LayerAudit.Proofs.Analysis.Relocation
import LayerAudit.Proofs.Analysis.Removal
import LayerAudit.Proofs.Analysis.Report
import LayerAudit.Proofs.Analysis.Restriction
import LayerAudit.Proofs.Cache.Attempts
import LayerAudit.Proofs.Cache.History
import LayerAudit.Proofs.Cache.ParseOrder
import LayerAudit.Proofs.Collector.Coverage
import LayerAudit.Proofs.Collector.Walk
import LayerAudit.Proofs.Collector.WalkOrder
import LayerAudit.Proofs.Command.Initialization
import LayerAudit.Proofs.Command.Verdict
import LayerAudit.Proofs.Config.Defaults
import LayerAudit.Proofs.Except
import LayerAudit.Proofs.Facts.DocumentOrder
import LayerAudit.Proofs.Facts.ExportedNames
import LayerAudit.Proofs.Facts.Faults
import LayerAudit.Proofs.Facts.FirstFault
import LayerAudit.Proofs.Facts.ImportedModules
import LayerAudit.Proofs.Facts.Lines
import LayerAudit.Proofs.Facts.References
import LayerAudit.Proofs.FileTree.Names
import LayerAudit.Proofs.FileTree.NewFile
import LayerAudit.Proofs.FileTree.Removal
import LayerAudit.Proofs.FileTree.Ways
import LayerAudit.Proofs.FileTree.Writing
import LayerAudit.Proofs.Json.RoundTrip
import LayerAudit.Proofs.Layer.Classification
import LayerAudit.Proofs.Layer.Climbing
import LayerAudit.Proofs.Layer.ImportedFile
import LayerAudit.Proofs.Layer.Joining
import LayerAudit.Proofs.Layer.Spelling
import LayerAudit.Proofs.Layer.Subdirectory
import LayerAudit.Proofs.List.Matching
import LayerAudit.Proofs.List.Parts
import LayerAudit.Proofs.Path.Components
import LayerAudit.Proofs.Path.Descent
import LayerAudit.Proofs.Path.Ending
import LayerAudit.Proofs.Path.Order
import LayerAudit.Proofs.Path.Resolution
import LayerAudit.Proofs.Path.Showing
import LayerAudit.Proofs.Path.Stem
import LayerAudit.Proofs.Report.Lines
import LayerAudit.Proofs.Report.Presentation
import LayerAudit.Proofs.Report.RoundTrip
import LayerAudit.Proofs.Rule.Annotations
import LayerAudit.Proofs.Rule.Blocks
import LayerAudit.Proofs.Rule.Declarations
import LayerAudit.Proofs.Rule.ErrorBases
import LayerAudit.Proofs.Rule.InterfaceNames
import LayerAudit.Proofs.Rule.Locality
import LayerAudit.Proofs.Rule.Messages
import LayerAudit.Proofs.Rule.OutwardImports
import LayerAudit.Proofs.Rule.Placement
import LayerAudit.Proofs.Rule.Places
import LayerAudit.Proofs.Rule.Relocation
import LayerAudit.Proofs.Rule.SuggestedNames
import LayerAudit.Proofs.Rule.Topics
import LayerAudit.Proofs.Store.History
import LayerAudit.Proofs.Store.Recording
import LayerAudit.Proofs.Text.ByteOrder
import LayerAudit.Proofs.Text.Lines
import LayerAudit.Proofs.Text.Trim
import LayerAudit.Proofs.Text.Utf8
import LayerAudit.Proofs.Toml.Decoding
import LayerAudit.Proofs.Toml.Entries
import LayerAudit.Proofs.Toml.Keys
import LayerAudit.Proofs.Toml.Record
