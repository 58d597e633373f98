import ClientScribe.Main
import ClientScribe.Proofs.Client.Declared
import ClientScribe.Proofs.Client.ParameterBinding
import ClientScribe.Proofs.Output.ReadBack
import ClientScribe.Proofs.Agreement
import ClientScribe.Proofs.Template.Indentation
import ClientScribe.Proofs.Output.SideBySide
import ClientScribe.Proofs.Template.StatementEnd
import ClientScribe.Proofs.Output.Layout
import ClientScribe.Proofs.Template.OperationText
import ClientScribe.Proofs.Client.ActionCall
import ClientScribe.Proofs.Api.Derived
import ClientScribe.Proofs.Client.Locality
import ClientScribe.Proofs.Client.Descriptor
import ClientScribe.Proofs.Output.Locality
import ClientScribe.Proofs.Api.Endpoints
import ClientScribe.Proofs.Output.Coverage
import ClientScribe.Proofs.Client.NamedSchemas
import ClientScribe.Proofs.Store.Opening
import ClientScribe.Proofs.Output.Atomicity
import ClientScribe.Proofs.CommandLine.Run
import ClientScribe.Proofs.Client.Untyped
import ClientScribe.Proofs.Template.Untyped
import ClientScribe.Proofs.Output.Untyped
import ClientScribe.Proofs.Identifier.Constant
import ClientScribe.Proofs.Template.Declaring
import ClientScribe.Proofs.Template.Literals
import ClientScribe.Proofs.Output.ValueNames
import ClientScribe.Proofs.Output.ImportBinding
import ClientScribe.Proofs.Client.DeclaredNames
import ClientScribe.Proofs.Output.TypeNames
import ClientScribe.Proofs.Client.References
import ClientScribe.Proofs.Client.WrittenTypes
import ClientScribe.Proofs.Decimal.Shortest
import ClientScribe.Proofs.Decimal.Text
import ClientScribe.Proofs.Script.Reader
import ClientScribe.Proofs.Script.Scalar
import ClientScribe.Proofs.Script.Row
import ClientScribe.Proofs.Script.Printed
import ClientScribe.Proofs.Client.DescriptorLiteral
import ClientScribe.Proofs.Identifier.Group
import ClientScribe.Proofs.Output.Confinement
import ClientScribe.Proofs.Output.SuccessiveRuns
import ClientScribe.Proofs.Json.Impossible
import ClientScribe.Proofs.Source.Credentials
import ClientScribe.Proofs.Source.Loading
import ClientScribe.Proofs.Text.CommentEnd
import ClientScribe.Proofs.Template.Marked
import ClientScribe.Proofs.Template.Comments
import ClientScribe.Proofs.Template.CommentRows
import ClientScribe.Proofs.Template.OperationComments
import ClientScribe.Proofs.Template.TypeComments
import ClientScribe.Proofs.Client.FunctionComment
import ClientScribe.Proofs.Client.DeclarationComment
import ClientScribe.Proofs.Output.Comments
import ClientScribe.Proofs.Api.ReferenceChain
import ClientScribe.Proofs.Schema.Kind
import ClientScribe.Proofs.Schema.DataType
import ClientScribe.Proofs.Script.TypeReader
import ClientScribe.Proofs.Schema.TypeText
import ClientScribe.Proofs.Schema.Qualification
import ClientScribe.Proofs.Schema.DocType
import ClientScribe.Proofs.Script.LiteralUnion
import ClientScribe.Proofs.Schema.ListedTexts
import ClientScribe.Proofs.Api.Merging
import ClientScribe.Proofs.Api.BestResponse
import ClientScribe.Proofs.Client.BestResponse
import ClientScribe.Proofs.Client.InterfaceMembers
import ClientScribe.Proofs.Schema.Refusal
import ClientScribe.Proofs.Schema.NameSource
import ClientScribe.Proofs.Client.DefinitionOutcome
import ClientScribe.Proofs.Client.Inheritance
import ClientScribe.Proofs.Identifier.Argument
import ClientScribe.Proofs.Client.ArgumentNames
import ClientScribe.Proofs.Text.UpperCase
import ClientScribe.Proofs.Identifier.Operation
import ClientScribe.Proofs.Script.Identifier
import ClientScribe.Proofs.Client.ArgumentIdentifiers
import ClientScribe.Proofs.Script.ObjectKey
import ClientScribe.Proofs.Client.RequestKeys
