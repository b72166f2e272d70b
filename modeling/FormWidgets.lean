import FormWidgets.CandidateSearch
import FormWidgets.ChildCreation.Key
import FormWidgets.ChildCreation.Offer
import FormWidgets.Collaborator
import FormWidgets.CommandLine
import FormWidgets.CommandLine.Help
import FormWidgets.CommandLine.Request
import FormWidgets.Configuration
import FormWidgets.Configuration.Reading
import FormWidgets.Containment
import FormWidgets.Context
import FormWidgets.Data
import FormWidgets.Data.Field
import FormWidgets.Data.Outline
import FormWidgets.Data.Scalar
import FormWidgets.DescriptionId
import FormWidgets.Document
import FormWidgets.Document.Index
import FormWidgets.Document.Listing
import FormWidgets.Document.Loading
import FormWidgets.Document.Validation
import FormWidgets.EngineError
import FormWidgets.ErrorReport
import FormWidgets.Execution
import FormWidgets.FileContent
import FormWidgets.Format.Document
import FormWidgets.Format.Operation
import FormWidgets.Format.Style
import FormWidgets.Format.Widget
import FormWidgets.Host.Folder
import FormWidgets.Host.Script
import FormWidgets.Log
import FormWidgets.Main
import FormWidgets.NameMap
import FormWidgets.Proofs.Session.Outcome
import FormWidgets.Operation
import FormWidgets.Session
import FormWidgets.Status
import FormWidgets.Style
import FormWidgets.Text.Blank
import FormWidgets.Text.Cut
import FormWidgets.Text.Integer
import FormWidgets.Text.Numeral
import FormWidgets.Text.Quoted
import FormWidgets.Text.Unprintable
import FormWidgets.Toml.QuotedText
import FormWidgets.Toml.Reading
import FormWidgets.Toml.Table
import FormWidgets.Toml.Value
import FormWidgets.Toml.Word
import FormWidgets.TypeSystem.Lineage
import FormWidgets.TypeSystem.Registry
import FormWidgets.TypeSystem.TypeName
import FormWidgets.Value
import FormWidgets.Widget.Binding
import FormWidgets.Widget.Description
import FormWidgets.Widget.EditHandler
import FormWidgets.Widget.Gesture
import FormWidgets.Widget.Kind
import FormWidgets.Widget.Provider
import FormWidgets.Widget.Rendering
import FormWidgets.Yaml.BlockScalar
import FormWidgets.Yaml.Folding
import FormWidgets.Yaml.Glyph
import FormWidgets.Yaml.Mark
import FormWidgets.Yaml.Node
import FormWidgets.Yaml.PlainScalar
import FormWidgets.Yaml.QuotedScalar
import FormWidgets.Yaml.Reading
import FormWidgets.Yaml.Tag
import FormWidgets.Yaml.Token
import FormWidgets.Yaml.TokenStream
import FormWidgets.Proofs.Execution.Comparison
import FormWidgets.Proofs.Execution.FailStop
import FormWidgets.Proofs.Execution.Scoping
import FormWidgets.Proofs.ChildCreation.KeyReading
import FormWidgets.Proofs.ChildCreation.Places
import FormWidgets.Proofs.TypeSystem.Registration
import FormWidgets.Proofs.TypeSystem.Ancestry
import FormWidgets.Proofs.Widget.FeedbackDelivery
import FormWidgets.Proofs.Widget.SlotRun
import FormWidgets.Proofs.Widget.GestureRouting
import FormWidgets.Proofs.Widget.CreationOwner
import FormWidgets.Proofs.Document.Placement
import FormWidgets.Proofs.Execution.Failure
import FormWidgets.Proofs.Execution.Unread
import FormWidgets.Proofs.Data.Pruning
import FormWidgets.Proofs.Data.RecordReading
import FormWidgets.Proofs.Format.OperationReading
import FormWidgets.Proofs.Format.WidgetReading
import FormWidgets.Proofs.Format.DocumentReading
import FormWidgets.Proofs.Text.Splitting
import FormWidgets.Proofs.TypeSystem.NameReading
import FormWidgets.Proofs.Widget.SlotListing
import FormWidgets.Proofs.Widget.ReferenceKind
import FormWidgets.Proofs.Widget.EmptySlot
import FormWidgets.Proofs.Session.Evaluations
import FormWidgets.Proofs.Execution.Evaluated
import FormWidgets.Proofs.Widget.BlankExpressions
import FormWidgets.Proofs.ChildCreation.Widening
import FormWidgets.Proofs.TypeSystem.RegistrationOrder
import FormWidgets.Proofs.Session.Logging
import FormWidgets.Proofs.Session.Instrumentation
import FormWidgets.Proofs.Widget.InvocationLog
import FormWidgets.Proofs.Session.EngineCalls
import FormWidgets.Proofs.TypeSystem.RegistryGrowth
import FormWidgets.Proofs.Document.Violation
import FormWidgets.Proofs.Document.Indexing
import FormWidgets.Proofs.DescriptionId.Routing
import FormWidgets.Proofs.Widget.CreationNames
import FormWidgets.Proofs.DescriptionId.Reading
import FormWidgets.Proofs.Containment.UpwardWalk
import FormWidgets.Proofs.Widget.Candidates
import FormWidgets.Proofs.Execution.Batch
import FormWidgets.Proofs.Widget.Reordering
import FormWidgets.Proofs.Containment.Ending
import FormWidgets.Proofs.Style.FirstMatch
import FormWidgets.Proofs.TypeSystem.RegistrationCalls
import FormWidgets.Proofs.TypeSystem.SharedNames
import FormWidgets.Proofs.TypeSystem.Distance
import FormWidgets.Proofs.TypeSystem.DepthFirst
import FormWidgets.Proofs.Text.DecimalReading
