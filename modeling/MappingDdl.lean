import MappingDdl.Calendar
import MappingDdl.ColumnType
import MappingDdl.ColumnType.Catalog
import MappingDdl.ColumnType.Expression
import MappingDdl.Command
import MappingDdl.Command.Arguments
import MappingDdl.Command.Option
import MappingDdl.Dialect
import MappingDdl.Dialect.Registry
import MappingDdl.Dialect.Types
import MappingDdl.Fault
import MappingDdl.Files.Path
import MappingDdl.Files.Tree
import MappingDdl.Generation
import MappingDdl.Json
import MappingDdl.Json.Reader
import MappingDdl.KeyGenerator
import MappingDdl.KeyGenerator.Registry
import MappingDdl.KeyGenerator.Sequence
import MappingDdl.Log
import MappingDdl.Log.Format
import MappingDdl.Main
import MappingDdl.Mapping.Checked
import MappingDdl.Mapping.Coercions
import MappingDdl.Mapping.Document
import MappingDdl.Mapping.Identity
import MappingDdl.Mapping.Library
import MappingDdl.Mapping.Lineage
import MappingDdl.Mapping.Source
import MappingDdl.Mapping.Structure
import MappingDdl.Mapping.Validation
import MappingDdl.Mapping.Written
import MappingDdl.Number.Binary
import MappingDdl.Number.Fixed
import MappingDdl.Number.Nearest
import MappingDdl.Number.Shortest
import MappingDdl.Proofs.Table
import MappingDdl.Schema
import MappingDdl.Schema.Build
import MappingDdl.Schema.ColumnTypes
import MappingDdl.Schema.Draft
import MappingDdl.Schema.Error
import MappingDdl.Schema.Junction
import MappingDdl.Script
import MappingDdl.Settings
import MappingDdl.Settings.Environment
import MappingDdl.Statement
import MappingDdl.Statement.Literal
import MappingDdl.Statement.Plan
import MappingDdl.Statement.Render
import MappingDdl.Text.Base64
import MappingDdl.Text.Blank
import MappingDdl.Text.Case
import MappingDdl.Text.Case.Table
import MappingDdl.Text.Digit
import MappingDdl.Text.Formatting
import MappingDdl.Text.Given
import MappingDdl.Text.Integer
import MappingDdl.Text.Lines
import MappingDdl.Text.Literal
import MappingDdl.Text.Order
import MappingDdl.Text.Percent
import MappingDdl.Text.Printable
import MappingDdl.Text.Quoted
import MappingDdl.Text.Ranges
import MappingDdl.Text.Template
import MappingDdl.Text.Template.Layout
import MappingDdl.Text.Template.Spec
import MappingDdl.Text.Word
import MappingDdl.Value
import MappingDdl.Value.Display
import MappingDdl.Value.Fields
import MappingDdl.Yaml.Cursor
import MappingDdl.Yaml.Document
import MappingDdl.Yaml.Node
import MappingDdl.Yaml.Node.Parser
import MappingDdl.Yaml.Scalar
import MappingDdl.Yaml.Tag
import MappingDdl.Yaml.Token
import MappingDdl.Yaml.Token.Block
import MappingDdl.Yaml.Token.Lexer
import MappingDdl.Yaml.Token.Plain
import MappingDdl.Yaml.Token.Property
import MappingDdl.Yaml.Token.Quoted
import MappingDdl.Proofs.Building
import MappingDdl.Proofs.Origin
import MappingDdl.Proofs.Inheritance
import MappingDdl.Proofs.Integrity
import MappingDdl.Proofs.IdentityTypes
import MappingDdl.Proofs.ReferenceTypes
import MappingDdl.Proofs.Arrangement
import MappingDdl.Proofs.Binding
import MappingDdl.Proofs.Wording
import MappingDdl.Proofs.Drafts
import MappingDdl.Proofs.Emission
import MappingDdl.Proofs.Templates
import MappingDdl.Proofs.Sequences
import MappingDdl.Proofs.Variants
import MappingDdl.Proofs.Configuration
import MappingDdl.Proofs.DefineBeforeUse
import MappingDdl.Proofs.Sessions
import MappingDdl.Proofs.Association
import MappingDdl.Proofs.Junction
import MappingDdl.Proofs.Agreement
import MappingDdl.Proofs.Appending
import MappingDdl.Proofs.Referencing
import MappingDdl.Proofs.Chains
import MappingDdl.Proofs.Failures
import MappingDdl.Proofs.Circles
import MappingDdl.Proofs.Delivery
import MappingDdl.Proofs.ErrorKinds
import MappingDdl.Proofs.KeyTypes
import MappingDdl.Proofs.Unmentioned
import MappingDdl.Proofs.ClassOrder
import MappingDdl.Proofs.Outline
import MappingDdl.Proofs.Json
import MappingDdl.Proofs.Loading
import MappingDdl.Proofs.Merging
import MappingDdl.Proofs.Generators
import MappingDdl.Proofs.Redeclaration
import MappingDdl.Proofs.Revising
import MappingDdl.Proofs.FurtherField
import MappingDdl.Proofs.SelfReference
import MappingDdl.Proofs.Ungenerated
import MappingDdl.Proofs.SequenceStatements
import MappingDdl.Proofs.KeyDeclarations
import MappingDdl.Proofs.Printing
import MappingDdl.Proofs.SequenceFaults
import MappingDdl.Proofs.Quoting
import MappingDdl.Proofs.Dependencies
import MappingDdl.Proofs.PlainColumn
import MappingDdl.Proofs.ReverseRelation
import MappingDdl.Proofs.Spelling
import MappingDdl.Proofs.NamedReference
import MappingDdl.Proofs.LastWins
import MappingDdl.Proofs.Warnings
import MappingDdl.Proofs.Reaching
import MappingDdl.Proofs.DialectNames
import MappingDdl.Proofs.Numerals
import MappingDdl.Proofs.TypeGrammar
import MappingDdl.Proofs.TypeAnswers
import MappingDdl.Proofs.Revalidation
import MappingDdl.Proofs.Writing
