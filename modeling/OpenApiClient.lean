import OpenApiClient.Api.Basic
import OpenApiClient.Api.Building
import OpenApiClient.Api.Catalogue
import OpenApiClient.Api.Json
import OpenApiClient.Api.Media
import OpenApiClient.Api.NameOrder
import OpenApiClient.Api.Path
import OpenApiClient.Api.Summary
import OpenApiClient.Api.Transform
import OpenApiClient.Client.Files
import OpenApiClient.Client.Templates
import OpenApiClient.Command.Basic
import OpenApiClient.Command.Run
import OpenApiClient.Command.Running
import OpenApiClient.Command.Usage
import OpenApiClient.Config
import OpenApiClient.Decimal.Binary64
import OpenApiClient.Decimal.Shortest
import OpenApiClient.Document.Basic
import OpenApiClient.Document.Json
import OpenApiClient.Document.Loading
import OpenApiClient.Document.Reference
import OpenApiClient.Document.ShapeError
import OpenApiClient.Entries
import OpenApiClient.Json.Basic
import OpenApiClient.Json.Pointer
import OpenApiClient.Json.Printer
import OpenApiClient.Json.Quoted
import OpenApiClient.Json.Reader
import OpenApiClient.Main
import OpenApiClient.Model.Agreement
import OpenApiClient.Model.Basic
import OpenApiClient.Model.Equality
import OpenApiClient.Model.Expansion
import OpenApiClient.Model.Json
import OpenApiClient.Model.Occurrences
import OpenApiClient.Model.Reference
import OpenApiClient.Model.TypeExpression
import OpenApiClient.Name
import OpenApiClient.Notice
import OpenApiClient.Proofs.AggregatedMethods
import OpenApiClient.Proofs.Aggregation
import OpenApiClient.Proofs.AgreeingDocuments
import OpenApiClient.Proofs.AgreeingSurfaces
import OpenApiClient.Proofs.Agreement
import OpenApiClient.Proofs.AlikeDeclarations
import OpenApiClient.Proofs.BackReferences
import OpenApiClient.Proofs.BareModels
import OpenApiClient.Proofs.BuildingNotices
import OpenApiClient.Proofs.BuildingSteps
import OpenApiClient.Proofs.Catalogue
import OpenApiClient.Proofs.ChainEnds
import OpenApiClient.Proofs.Chains
import OpenApiClient.Proofs.ClosedComments
import OpenApiClient.Proofs.Collisions
import OpenApiClient.Proofs.CommandSteps
import OpenApiClient.Proofs.CommentBlocks
import OpenApiClient.Proofs.ComponentEntries
import OpenApiClient.Proofs.DeclaredIdentifiers
import OpenApiClient.Proofs.DistinctArguments
import OpenApiClient.Proofs.DistinctMembers
import OpenApiClient.Proofs.DistinctPaths
import OpenApiClient.Proofs.EndingExpansions
import OpenApiClient.Proofs.EndpointPlaces
import OpenApiClient.Proofs.EntryLists
import OpenApiClient.Proofs.ExpandedModels
import OpenApiClient.Proofs.Expands
import OpenApiClient.Proofs.ExpansionFailures
import OpenApiClient.Proofs.ExpansionSteps
import OpenApiClient.Proofs.FilePaths
import OpenApiClient.Proofs.FirstOccurrences
import OpenApiClient.Proofs.FunctionNames
import OpenApiClient.Proofs.GeneratedTrees
import OpenApiClient.Proofs.GivenNames
import OpenApiClient.Proofs.Identifiers
import OpenApiClient.Proofs.Imports
import OpenApiClient.Proofs.IndependentOutput
import OpenApiClient.Proofs.Interpolations
import OpenApiClient.Proofs.KeyedTrees
import OpenApiClient.Proofs.LetterCases
import OpenApiClient.Proofs.ListedDefinitions
import OpenApiClient.Proofs.LiteralTexts
import OpenApiClient.Proofs.LoadedDocuments
import OpenApiClient.Proofs.MethodHeadings
import OpenApiClient.Proofs.MethodSites
import OpenApiClient.Proofs.MethodViews
import OpenApiClient.Proofs.ModelExpressions
import OpenApiClient.Proofs.ModelReferences
import OpenApiClient.Proofs.ModelTree
import OpenApiClient.Proofs.NameOrder
import OpenApiClient.Proofs.NamedModels
import OpenApiClient.Proofs.OpenedReferences
import OpenApiClient.Proofs.Parameters
import OpenApiClient.Proofs.PathArguments
import OpenApiClient.Proofs.PathIndependence
import OpenApiClient.Proofs.PathItems
import OpenApiClient.Proofs.PointerSteps
import OpenApiClient.Proofs.PrintedLiterals
import OpenApiClient.Proofs.PropertyNames
import OpenApiClient.Proofs.QuotedTexts
import OpenApiClient.Proofs.ReferenceErrors
import OpenApiClient.Proofs.RenderedClients
import OpenApiClient.Proofs.RenderedDeclarations
import OpenApiClient.Proofs.RenderedEndpoints
import OpenApiClient.Proofs.RenderedNodes
import OpenApiClient.Proofs.RenderedSerializers
import OpenApiClient.Proofs.RenderedTemplates
import OpenApiClient.Proofs.RequestBodies
import OpenApiClient.Proofs.ResponseTests
import OpenApiClient.Proofs.Results
import OpenApiClient.Proofs.SchemaReferences
import OpenApiClient.Proofs.SchemaSites
import OpenApiClient.Proofs.SchemaSurfaces
import OpenApiClient.Proofs.SerializerCalls
import OpenApiClient.Proofs.SharedBuilders
import OpenApiClient.Proofs.SpelledNames
import OpenApiClient.Proofs.Spellings
import OpenApiClient.Proofs.SplitPaths
import OpenApiClient.Proofs.TreePictures
import OpenApiClient.Proofs.TypeReadings
import OpenApiClient.Proofs.VariantSuffixes
import OpenApiClient.Proofs.WrittenDocuments
import OpenApiClient.Proofs.WrittenParts
import OpenApiClient.Proofs.WrittenSchemas
import OpenApiClient.Schema.Basic
import OpenApiClient.Schema.Json
import OpenApiClient.Template.Basic
import OpenApiClient.Template.Builtin.Client
import OpenApiClient.Template.Builtin.Declaration
import OpenApiClient.Template.Builtin.Endpoint
import OpenApiClient.Template.Builtin.Index
import OpenApiClient.Template.Builtin.Serializer
import OpenApiClient.Template.Expression
import OpenApiClient.Template.Filter
import OpenApiClient.Template.Piece
import OpenApiClient.Template.Rendering
import OpenApiClient.Template.Statement
import OpenApiClient.Template.Token
import OpenApiClient.Template.Value
import OpenApiClient.Text.Alphanumeric
import OpenApiClient.Text.Blank
import OpenApiClient.Text.CodeRun
import OpenApiClient.Text.Digits
import OpenApiClient.Text.Folding
import OpenApiClient.Text.LetterCase
import OpenApiClient.Text.Visible
import OpenApiClient.Text.Words
import OpenApiClient.Verb
import OpenApiClient.View.Endpoint
import OpenApiClient.View.Json
import OpenApiClient.View.Method
import OpenApiClient.View.Model
import OpenApiClient.View.Spelling
import OpenApiClient.Workspace.Access
import OpenApiClient.Workspace.FileError
import OpenApiClient.Workspace.Path
import OpenApiClient.Workspace.Tree
import OpenApiClient.Yaml.Cursor
import OpenApiClient.Yaml.Layout
import OpenApiClient.Yaml.Node
import OpenApiClient.Yaml.Plain
import OpenApiClient.Yaml.Printer
import OpenApiClient.Yaml.Scalar
import OpenApiClient.Yaml.Tag
import OpenApiClient.Yaml.Token
import OpenApiClient.Yaml.Tree
