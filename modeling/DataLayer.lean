import DataLayer.Catalog.Basic
import DataLayer.Catalog.Decode
import DataLayer.Code.Layout
import DataLayer.CommandLine.Arguments
import DataLayer.CommandLine.Basic
import DataLayer.CommandLine.Outcome
import DataLayer.Document.Json
import DataLayer.Document.Number
import DataLayer.Document.Reading
import DataLayer.Document.Record
import DataLayer.Document.Toml.Quoted
import DataLayer.Document.Toml.Scalar
import DataLayer.Document.Toml.Statement
import DataLayer.Document.Toml.Tree
import DataLayer.Document.Value
import DataLayer.Files.Path
import DataLayer.Files.Store
import DataLayer.Files.Tree
import DataLayer.Files.Write
import DataLayer.Generation.Config
import DataLayer.Generation.Output
import DataLayer.Generation.Render
import DataLayer.Generation.Run
import DataLayer.Main
import DataLayer.Manifest.Basic
import DataLayer.Manifest.Decode
import DataLayer.Manifest.Error
import DataLayer.Manifest.Name
import DataLayer.Manifest.Parse
import DataLayer.NamedMap
import DataLayer.Project.Basic
import DataLayer.Project.Check
import DataLayer.Project.Generate
import DataLayer.Project.Init
import DataLayer.Project.Report
import DataLayer.Project.Scaffold
import DataLayer.Project.Tables
import DataLayer.Proofs.Catalog.Decoding
import DataLayer.Proofs.Catalog.WrittenForms
import DataLayer.Proofs.Code.Indentation
import DataLayer.Proofs.Code.Layout
import DataLayer.Proofs.Document.Fields
import DataLayer.Proofs.Document.LeftOut
import DataLayer.Proofs.Document.Lines
import DataLayer.Proofs.Document.Record
import DataLayer.Proofs.Document.Sections
import DataLayer.Proofs.Document.Tree
import DataLayer.Proofs.Files.Entries
import DataLayer.Proofs.Files.Folders
import DataLayer.Proofs.Files.Making
import DataLayer.Proofs.Files.Path
import DataLayer.Proofs.Files.Places
import DataLayer.Proofs.Files.Reach
import DataLayer.Proofs.Files.Segments
import DataLayer.Proofs.Files.Steps
import DataLayer.Proofs.Files.Writing
import DataLayer.Proofs.Generation.Braces
import DataLayer.Proofs.Generation.Clashes
import DataLayer.Proofs.Generation.Contents
import DataLayer.Proofs.Generation.Directory
import DataLayer.Proofs.Generation.FileEnds
import DataLayer.Proofs.Generation.HandOver
import DataLayer.Proofs.Generation.Layouts
import DataLayer.Proofs.Generation.Namespaces
import DataLayer.Proofs.Generation.OwnFiles
import DataLayer.Proofs.Generation.Placement
import DataLayer.Proofs.Generation.Renderable
import DataLayer.Proofs.Generation.Respelled
import DataLayer.Proofs.Generation.Run
import DataLayer.Proofs.Generation.Templates
import DataLayer.Proofs.Manifest.Acceptance
import DataLayer.Proofs.Manifest.EmptySections
import DataLayer.Proofs.Manifest.FirstFault
import DataLayer.Proofs.Manifest.Grammar
import DataLayer.Proofs.Manifest.Spans
import DataLayer.Proofs.NamedMap
import DataLayer.Proofs.Project.Check
import DataLayer.Proofs.Project.FirstGeneration
import DataLayer.Proofs.Project.FreshProject
import DataLayer.Proofs.Project.Generation
import DataLayer.Proofs.Project.Loading
import DataLayer.Proofs.Project.NewManifest
import DataLayer.Proofs.Project.RootNamespace
import DataLayer.Proofs.Project.SampleCatalog
import DataLayer.Proofs.Project.Scaffolding
import DataLayer.Proofs.Project.TableList
import DataLayer.Proofs.Render.Attributes
import DataLayer.Proofs.Render.Braces
import DataLayer.Proofs.Render.DbTypes
import DataLayer.Proofs.Render.Entity
import DataLayer.Proofs.Render.EntityLines
import DataLayer.Proofs.Schema.Description
import DataLayer.Proofs.Schema.Introspection
import DataLayer.Proofs.Schema.Outcome
import DataLayer.Proofs.Schema.Respelled
import DataLayer.Proofs.Schema.Snapshot
import DataLayer.Proofs.Schema.TypeNames
import DataLayer.Proofs.Stateful
import DataLayer.Proofs.Template.Blocks
import DataLayer.Proofs.Template.Concatenation
import DataLayer.Proofs.Template.FieldHistory
import DataLayer.Proofs.Template.Filling
import DataLayer.Proofs.Template.Frame
import DataLayer.Proofs.Template.Markers
import DataLayer.Proofs.Template.Replacement
import DataLayer.Proofs.Text.Blocks
import DataLayer.Proofs.Text.Braces
import DataLayer.Proofs.Text.LetterCase
import DataLayer.Proofs.Text.Likeness
import DataLayer.Proofs.Text.LineEnds
import DataLayer.Proofs.Text.LineForms
import DataLayer.Proofs.Text.Lines
import DataLayer.Proofs.Text.QuotedBytes
import DataLayer.Proofs.Text.Span
import DataLayer.Proofs.Text.Split
import DataLayer.Proofs.Text.Uppercase
import DataLayer.Proofs.Text.Words
import DataLayer.Proofs.Traversal
import DataLayer.Render.Context
import DataLayer.Render.Entity
import DataLayer.Schema.Introspect
import DataLayer.Schema.StorageFamily
import DataLayer.Schema.Table
import DataLayer.Template.Basic
import DataLayer.Template.Fill
import DataLayer.Template.Source
import DataLayer.Text.CaseTable
import DataLayer.Text.Lines
import DataLayer.Text.Quoted
import DataLayer.Text.Span
import DataLayer.Text.Uppercase
