import Scaffold.Apply
import Scaffold.Blueprint.Area
import Scaffold.Blueprint.Basic
import Scaffold.Blueprint.FieldView
import Scaffold.Blueprint.Names
import Scaffold.CommandLine.Arguments
import Scaffold.CommandLine.Invocation
import Scaffold.CommandLine.Run
import Scaffold.Component
import Scaffold.Config.Basic
import Scaffold.Config.Document
import Scaffold.Decimal.Shortest
import Scaffold.Fault
import Scaffold.FieldList
import Scaffold.FieldType
import Scaffold.FilePath
import Scaffold.FileTree.Basic
import Scaffold.FileTree.Change
import Scaffold.FileTree.Resolve
import Scaffold.Generator
import Scaffold.History.Document
import Scaffold.History.Ledger
import Scaffold.History.Store
import Scaffold.Instant
import Scaffold.Job
import Scaffold.Json.Decode
import Scaffold.Json.Reader
import Scaffold.Json.Value
import Scaffold.Json.Writer
import Scaffold.Layer.Outputs
import Scaffold.Main
import Scaffold.Naming.Case
import Scaffold.Naming.Comment
import Scaffold.Naming.Identifier
import Scaffold.Naming.Plural
import Scaffold.Pattern.Basic
import Scaffold.Pattern.CharSet
import Scaffold.Pattern.Reader
import Scaffold.Pattern.Replace
import Scaffold.Pattern.Search
import Scaffold.Proofs.Decimal.Digits
import Scaffold.Proofs.FieldList.Announced
import Scaffold.Proofs.FieldList.Entries
import Scaffold.Proofs.FieldList.RoundTrip
import Scaffold.Proofs.FieldType.Mention
import Scaffold.Proofs.FieldType.Projection
import Scaffold.Proofs.FileTree.Additions
import Scaffold.Proofs.FileTree.Alike
import Scaffold.Proofs.FileTree.Aside
import Scaffold.Proofs.FileTree.Closed
import Scaffold.Proofs.FileTree.Effect
import Scaffold.Proofs.FileTree.Growth
import Scaffold.Proofs.FileTree.Laying
import Scaffold.Proofs.FileTree.Overlay
import Scaffold.Proofs.FileTree.Place
import Scaffold.Proofs.FileTree.Steps
import Scaffold.Proofs.FileTree.Trail
import Scaffold.Proofs.FileTree.Storing
import Scaffold.Proofs.FileTree.Ways
import Scaffold.Proofs.Generator.Addition
import Scaffold.Proofs.Generator.Confinement
import Scaffold.Proofs.Generator.Ownership
import Scaffold.Proofs.Generator.Parts
import Scaffold.Proofs.Generator.Regeneration
import Scaffold.Proofs.Generator.Replacement
import Scaffold.Proofs.Generator.Reversal
import Scaffold.Proofs.Generator.Stages
import Scaffold.Proofs.Generator.Truthfulness
import Scaffold.Proofs.Generator.Unrecorded
import Scaffold.Proofs.History.Deletion
import Scaffold.Proofs.History.Document
import Scaffold.Proofs.History.FileStore
import Scaffold.Proofs.History.OrderedMap
import Scaffold.Proofs.History.Refinement
import Scaffold.Proofs.History.Unreadable
import Scaffold.Proofs.Instant.RoundTrip
import Scaffold.Proofs.Job.Aside
import Scaffold.Proofs.Job.Deposit
import Scaffold.Proofs.Job.Site
import Scaffold.Proofs.Job.TreeWork
import Scaffold.Proofs.Json.Literal
import Scaffold.Proofs.Json.RoundTrip
import Scaffold.Proofs.Json.Row
import Scaffold.Proofs.Json.Spelling
import Scaffold.Proofs.Layer.Course
import Scaffold.Proofs.Layer.Paths
import Scaffold.Proofs.Layer.Production
import Scaffold.Proofs.Layer.Templates
import Scaffold.Proofs.Naming.Asides
import Scaffold.Proofs.Naming.Boundaries
import Scaffold.Proofs.Naming.Capitals
import Scaffold.Proofs.Naming.Cleaning
import Scaffold.Proofs.Naming.Compound
import Scaffold.Proofs.Naming.Exported
import Scaffold.Proofs.Naming.FileName
import Scaffold.Proofs.Naming.Kebab
import Scaffold.Proofs.Naming.Letters
import Scaffold.Proofs.Naming.Passes
import Scaffold.Proofs.Naming.Plural
import Scaffold.Proofs.Naming.PropertyName
import Scaffold.Proofs.Naming.Spellings
import Scaffold.Proofs.Naming.TableName
import Scaffold.Proofs.Naming.Words
import Scaffold.Proofs.Pattern.Literal
import Scaffold.Proofs.Registry.Registration
import Scaffold.Proofs.Request.Document
import Scaffold.Proofs.Request.Keys
import Scaffold.Proofs.Request.Spelling
import Scaffold.Proofs.Snippet.Application
import Scaffold.Proofs.Snippet.Artifacts
import Scaffold.Proofs.Snippet.ClientModules
import Scaffold.Proofs.Snippet.Document
import Scaffold.Proofs.Snippet.Generated
import Scaffold.Proofs.Snippet.Independence
import Scaffold.Proofs.Snippet.MemberNames
import Scaffold.Proofs.Snippet.References
import Scaffold.Proofs.Snippet.Target
import Scaffold.Proofs.Snippet.WireNames
import Scaffold.Proofs.Splice.Anchor
import Scaffold.Proofs.Splice.Marker
import Scaffold.Proofs.Splice.WholeLines
import Scaffold.Proofs.Template.Agreement
import Scaffold.Proofs.Template.Declarations
import Scaffold.Proofs.Template.FreeTexts
import Scaffold.Proofs.Template.GoCode
import Scaffold.Proofs.Template.GoFiles
import Scaffold.Proofs.Template.Imports
import Scaffold.Proofs.Template.Listing
import Scaffold.Proofs.Template.Members
import Scaffold.Proofs.Template.Outline
import Scaffold.Proofs.Template.Remarks
import Scaffold.Proofs.Text.Bytes
import Scaffold.Proofs.Text.CaseTables
import Scaffold.Proofs.Text.Occurrence
import Scaffold.Proofs.Text.Pieces
import Scaffold.Proofs.Text.Trimming
import Scaffold.Proofs.Text.Unbroken
import Scaffold.Proofs.Validation.Acceptance
import Scaffold.Proofs.Validation.Reports
import Scaffold.Proofs.Validation.Rules
import Scaffold.Proofs.Workshop.Aside
import Scaffold.Proofs.Workshop.Composition
import Scaffold.Proofs.Workshop.Delivery
import Scaffold.Proofs.Workshop.Rendering
import Scaffold.Proofs.Workshop.Repetition
import Scaffold.Proofs.Workshop.Rollback
import Scaffold.Proofs.Workshop.StageWork
import Scaffold.Proofs.Workshop.Writing
import Scaffold.Registry.Basic
import Scaffold.Registry.Stage
import Scaffold.Request
import Scaffold.Response
import Scaffold.Snippet
import Scaffold.Snippets.Client
import Scaffold.Snippets.Dialog
import Scaffold.Snippets.MenuRoute
import Scaffold.Snippets.Page
import Scaffold.Snippets.Placement
import Scaffold.Snippets.Server
import Scaffold.Splice
import Scaffold.Template.Bundled
import Scaffold.Template.Engine
import Scaffold.Template.Expr
import Scaffold.Template.Library
import Scaffold.Template.Render
import Scaffold.Template.Token
import Scaffold.Template.Tree
import Scaffold.Text.Alphabetic
import Scaffold.Text.Blank
import Scaffold.Text.CaseMap
import Scaffold.Text.CaseOrbit
import Scaffold.Text.Category
import Scaffold.Text.Numeric
import Scaffold.Text.Quoted
import Scaffold.Text.Search
import Scaffold.Text.Stride
import Scaffold.Toolbox.LineEditor
import Scaffold.Validation
import Scaffold.Workshop
import Scaffold.Writer
import Scaffold.Yaml.Cursor
import Scaffold.Yaml.Label
import Scaffold.Yaml.Node
import Scaffold.Yaml.Reader
import Scaffold.Yaml.Scalar
