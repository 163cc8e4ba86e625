import EngineBindings.Api.Basic
import EngineBindings.Api.Catalog
import EngineBindings.Api.ClassSet
import EngineBindings.Api.Error
import EngineBindings.Api.Load
import EngineBindings.CommandLine.Arguments
import EngineBindings.CommandLine.Run
import EngineBindings.CommandLine.Switch
import EngineBindings.Dictionary
import EngineBindings.Emission.Emitter
import EngineBindings.Emission.Plan
import EngineBindings.Enum.Declaration
import EngineBindings.Enum.Definition
import EngineBindings.Enum.Error
import EngineBindings.Enum.Ordinal
import EngineBindings.Failure
import EngineBindings.FileTree.Basic
import EngineBindings.FileTree.Encoding
import EngineBindings.FileTree.Path
import EngineBindings.FileTree.Write
import EngineBindings.Json.Binary64
import EngineBindings.Json.Document
import EngineBindings.Json.Literal
import EngineBindings.Json.Token
import EngineBindings.Json.Value
import EngineBindings.Log.Conversion
import EngineBindings.Log.Format
import EngineBindings.Log.Level
import EngineBindings.Log.Notation
import EngineBindings.Log.Record
import EngineBindings.Log.Routing
import EngineBindings.Main
import EngineBindings.Naming.Keyword
import EngineBindings.Naming.ModuleName
import EngineBindings.Proofs.Api.Collection
import EngineBindings.Proofs.Api.Combination
import EngineBindings.Proofs.Api.Refusal
import EngineBindings.Proofs.Attempt
import EngineBindings.Proofs.CommandLine.Run
import EngineBindings.Proofs.Dictionary
import EngineBindings.Proofs.Emission.ClosedForm
import EngineBindings.Proofs.Emission.Constants
import EngineBindings.Proofs.Emission.Declaration
import EngineBindings.Proofs.Emission.Displacement
import EngineBindings.Proofs.Emission.DryRun
import EngineBindings.Proofs.Emission.EndState
import EngineBindings.Proofs.Emission.Interruption
import EngineBindings.Proofs.Emission.ModuleText
import EngineBindings.Proofs.Emission.Paths
import EngineBindings.Proofs.Emission.Plan
import EngineBindings.Proofs.Emission.Repetition
import EngineBindings.Proofs.Emission.Resolution
import EngineBindings.Proofs.Emission.Run
import EngineBindings.Proofs.Enum.Acceptance
import EngineBindings.Proofs.Enum.Combination
import EngineBindings.Proofs.Enum.Ordinal
import EngineBindings.Proofs.Enum.Refusal
import EngineBindings.Proofs.Enum.Views
import EngineBindings.Proofs.FileTree.Effect
import EngineBindings.Proofs.FileTree.Encoding
import EngineBindings.Proofs.FileTree.Path
import EngineBindings.Proofs.FileTree.Remains
import EngineBindings.Proofs.FileTree.Repetition
import EngineBindings.Proofs.FileTree.Shortcut
import EngineBindings.Proofs.FileTree.Straight
import EngineBindings.Proofs.FileTree.Walk
import EngineBindings.Proofs.FileTree.Write
import EngineBindings.Proofs.Log.Delivery
import EngineBindings.Proofs.Log.Pattern
import EngineBindings.Proofs.Log.Routing
import EngineBindings.Proofs.Naming.Canonical
import EngineBindings.Proofs.Naming.Fixpoint
import EngineBindings.Proofs.Naming.Keyword
import EngineBindings.Proofs.Naming.Position
import EngineBindings.Proofs.Naming.Shape
import EngineBindings.Proofs.RustType.Nesting
import EngineBindings.Proofs.RustType.Override
import EngineBindings.Proofs.RustType.Resolver
import EngineBindings.Proofs.RustType.Rule
import EngineBindings.Proofs.RustType.Spelling
import EngineBindings.Proofs.Session
import EngineBindings.Proofs.Template.Library
import EngineBindings.Proofs.Template.Lines
import EngineBindings.Proofs.Text.Affix
import EngineBindings.Proofs.Text.Newline
import EngineBindings.Proofs.Text.Replacement
import EngineBindings.RustType.Basic
import EngineBindings.RustType.Resolver
import EngineBindings.Session
import EngineBindings.Template.FieldTable
import EngineBindings.Template.Library
import EngineBindings.Template.LoopState
import EngineBindings.Template.Nesting
import EngineBindings.Template.Parse
import EngineBindings.Template.Render
import EngineBindings.Template.Scope
import EngineBindings.Template.Syntax
import EngineBindings.Template.Tag
import EngineBindings.Template.Value
import EngineBindings.Template.ValueType
import EngineBindings.Text.Affix
import EngineBindings.Text.Blank
import EngineBindings.Text.Decomposition
import EngineBindings.Text.Digit
import EngineBindings.Text.Newline
import EngineBindings.Text.Printable
import EngineBindings.Text.Quoted
import EngineBindings.Text.Word
