import SchemaRegistry.Conformance.Check
import SchemaRegistry.Conformance.Diagnostic
import SchemaRegistry.Deployment.Environment
import SchemaRegistry.Deployment.Server
import SchemaRegistry.Deployment.Settings
import SchemaRegistry.Failure
import SchemaRegistry.Host.Arguments
import SchemaRegistry.Host.Catalogue
import SchemaRegistry.Host.Declaration
import SchemaRegistry.Host.Display
import SchemaRegistry.Host.Enumeration
import SchemaRegistry.Host.Equality
import SchemaRegistry.Host.Evaluation
import SchemaRegistry.Host.Field
import SchemaRegistry.Host.FieldName
import SchemaRegistry.Host.Form
import SchemaRegistry.Host.Hint
import SchemaRegistry.Host.Inventory
import SchemaRegistry.Host.Linearization
import SchemaRegistry.Host.Member
import SchemaRegistry.Host.MethodTable
import SchemaRegistry.Host.Operator
import SchemaRegistry.Host.Typing
import SchemaRegistry.Host.Universe
import SchemaRegistry.Host.Workspace
import SchemaRegistry.Host.Written.Expression
import SchemaRegistry.Host.Written.Reader
import SchemaRegistry.Host.Written.Token
import SchemaRegistry.Json.Basic
import SchemaRegistry.Json.Exchange
import SchemaRegistry.Json.Reader
import SchemaRegistry.Json.Writer
import SchemaRegistry.Log.Output
import SchemaRegistry.Log.Record
import SchemaRegistry.Number.Binary64
import SchemaRegistry.Number.Fixed
import SchemaRegistry.Number.Numeral
import SchemaRegistry.Number.Shortest
import SchemaRegistry.Proofs.Conformance.AttributeOrder
import SchemaRegistry.Proofs.Conformance.Diagnoses
import SchemaRegistry.Proofs.Conformance.FailFast
import SchemaRegistry.Proofs.Conformance.FirstFields
import SchemaRegistry.Proofs.Conformance.Logging
import SchemaRegistry.Proofs.Conformance.Membership
import SchemaRegistry.Proofs.Conformance.Modes
import SchemaRegistry.Proofs.Conformance.Strict
import SchemaRegistry.Proofs.Host.Building
import SchemaRegistry.Proofs.Host.Declarations
import SchemaRegistry.Proofs.Host.Evaluation
import SchemaRegistry.Proofs.Host.ExplicitHints
import SchemaRegistry.Proofs.Host.Faults
import SchemaRegistry.Proofs.Host.Lineage
import SchemaRegistry.Proofs.Host.NearestDeclaration
import SchemaRegistry.Proofs.Host.NeatClasses
import SchemaRegistry.Proofs.Host.Neatness
import SchemaRegistry.Proofs.Host.PlainFailures
import SchemaRegistry.Proofs.Host.Shadowing
import SchemaRegistry.Proofs.Host.Subclass
import SchemaRegistry.Proofs.Host.Unions
import SchemaRegistry.Proofs.Host.Wrappers
import SchemaRegistry.Proofs.Json.ExchangeRoundTrip
import SchemaRegistry.Proofs.Json.RoundTrip
import SchemaRegistry.Proofs.Json.StringLiteral
import SchemaRegistry.Proofs.Log.SplitOutput
import SchemaRegistry.Proofs.Registry.AuditTrail
import SchemaRegistry.Proofs.Registry.Client
import SchemaRegistry.Proofs.Registry.Construction
import SchemaRegistry.Proofs.Registry.Entry
import SchemaRegistry.Proofs.Registry.Evolution
import SchemaRegistry.Proofs.Registry.Ledger
import SchemaRegistry.Proofs.Registry.Listing
import SchemaRegistry.Proofs.Registry.OneWriter
import SchemaRegistry.Proofs.Registry.Race
import SchemaRegistry.Proofs.Registry.References
import SchemaRegistry.Proofs.Registry.RowLife
import SchemaRegistry.Proofs.Registry.SoundOperations
import SchemaRegistry.Proofs.Registry.SoundTable
import SchemaRegistry.Proofs.Registry.StoredAttributes
import SchemaRegistry.Proofs.Registry.StoredVerdict
import SchemaRegistry.Proofs.Registry.Timestamps
import SchemaRegistry.Proofs.Schema.Alterations
import SchemaRegistry.Proofs.Schema.DetailsText
import SchemaRegistry.Proofs.Schema.NormalForm
import SchemaRegistry.Proofs.Schema.Padding
import SchemaRegistry.Proofs.Schema.Places
import SchemaRegistry.Proofs.Schema.RepeatedNames
import SchemaRegistry.Proofs.Schema.UnknownFields
import SchemaRegistry.Proofs.Text.Joined
import SchemaRegistry.Proofs.Text.UpperCase
import SchemaRegistry.Proofs.Text.Utf8
import SchemaRegistry.Proofs.Time.RoundTrip
import SchemaRegistry.Proofs.Web.Addressing
import SchemaRegistry.Proofs.Web.Effect
import SchemaRegistry.Proofs.Web.Frame
import SchemaRegistry.Proofs.Web.PathKeys
import SchemaRegistry.Proofs.Web.PathRoundTrip
import SchemaRegistry.Proofs.Web.Registering
import SchemaRegistry.Proofs.Web.Visits
import SchemaRegistry.Registry.Command
import SchemaRegistry.Registry.Layout
import SchemaRegistry.Registry.Operations
import SchemaRegistry.Registry.Revision
import SchemaRegistry.Registry.Row
import SchemaRegistry.Registry.Table
import SchemaRegistry.Registry.Tamper
import SchemaRegistry.Schema.Attribute
import SchemaRegistry.Schema.BoundedText
import SchemaRegistry.Schema.Category
import SchemaRegistry.Schema.Checked
import SchemaRegistry.Schema.Choice
import SchemaRegistry.Schema.Details
import SchemaRegistry.Schema.Key
import SchemaRegistry.Schema.Lifecycle
import SchemaRegistry.Schema.Model
import SchemaRegistry.Schema.Record
import SchemaRegistry.Schema.Refusal
import SchemaRegistry.Schema.Registration
import SchemaRegistry.Schema.Scalar
import SchemaRegistry.Schema.Variant
import SchemaRegistry.ServiceError
import SchemaRegistry.Text.Blank
import SchemaRegistry.Text.Case
import SchemaRegistry.Text.CaseTable
import SchemaRegistry.Text.CasedTable
import SchemaRegistry.Text.Digits
import SchemaRegistry.Text.Encoding
import SchemaRegistry.Text.HiddenTable
import SchemaRegistry.Text.Loose
import SchemaRegistry.Text.Name
import SchemaRegistry.Text.NameTable
import SchemaRegistry.Text.Order
import SchemaRegistry.Text.Quoted
import SchemaRegistry.Text.Ranges
import SchemaRegistry.Text.Split
import SchemaRegistry.Text.Template
import SchemaRegistry.Text.Utf8
import SchemaRegistry.Time.Calendar
import SchemaRegistry.Time.Clock
import SchemaRegistry.Time.DateTime
import SchemaRegistry.Time.Reader
import SchemaRegistry.Time.Stored
import SchemaRegistry.Web.Address
import SchemaRegistry.Web.Message
import SchemaRegistry.Web.Percent
import SchemaRegistry.Web.Query
import SchemaRegistry.Web.Route
import SchemaRegistry.Web.Service
