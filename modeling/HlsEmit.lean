import HlsEmit.Backend.Basic
import HlsEmit.Backend.Builtin
import HlsEmit.Backend.Dialect
import HlsEmit.Backend.Registry
import HlsEmit.Binary64
import HlsEmit.CommandLine.Arguments
import HlsEmit.CommandLine.Run
import HlsEmit.Decimal.Notation
import HlsEmit.Decimal.Shortest
import HlsEmit.Diagnostic.Basic
import HlsEmit.Diagnostic.Failure
import HlsEmit.Diagnostic.Locate
import HlsEmit.Diagnostic.Report
import HlsEmit.Error
import HlsEmit.Family.Activation
import HlsEmit.Family.Attributes
import HlsEmit.Family.Dense
import HlsEmit.Family.Pooling
import HlsEmit.Family.Shape
import HlsEmit.Files.Basic
import HlsEmit.Files.Directory
import HlsEmit.Json.Fault
import HlsEmit.Json.Number
import HlsEmit.Json.Reader
import HlsEmit.Json.Record
import HlsEmit.Json.Skip
import HlsEmit.Json.Text
import HlsEmit.Json.Value
import HlsEmit.Layer.Attribute
import HlsEmit.Layer.Basic
import HlsEmit.Layer.Kind
import HlsEmit.Log.Event
import HlsEmit.Log.Filter
import HlsEmit.Main
import HlsEmit.Model.Basic
import HlsEmit.Model.Document
import HlsEmit.Model.Load
import HlsEmit.Project
import HlsEmit.Proofs.Backend.Assembly
import HlsEmit.Proofs.Backend.Braces
import HlsEmit.Proofs.Backend.Builtin
import HlsEmit.Proofs.Backend.Caseless
import HlsEmit.Proofs.Backend.Completeness
import HlsEmit.Proofs.Backend.Confinement
import HlsEmit.Proofs.Backend.DenseConfig
import HlsEmit.Proofs.Backend.DenseFields
import HlsEmit.Proofs.Backend.Dispatch
import HlsEmit.Proofs.Backend.Growth
import HlsEmit.Proofs.Backend.Layouts
import HlsEmit.Proofs.Backend.PoolWindow
import HlsEmit.Proofs.Backend.Registry
import HlsEmit.Proofs.Backend.Renaming
import HlsEmit.Proofs.Backend.Sheets
import HlsEmit.Proofs.Backend.Values
import HlsEmit.Proofs.CommandLine.Rendering
import HlsEmit.Proofs.Diagnostic.Advice
import HlsEmit.Proofs.Diagnostic.Faults
import HlsEmit.Proofs.Diagnostic.Labels
import HlsEmit.Proofs.Diagnostic.LayerPlaces
import HlsEmit.Proofs.Diagnostic.Reports
import HlsEmit.Proofs.Family.DenseSizes
import HlsEmit.Proofs.Family.Derivations
import HlsEmit.Proofs.Family.Structs
import HlsEmit.Proofs.FirstSeen
import HlsEmit.Proofs.Json.Integers
import HlsEmit.Proofs.Json.Reading
import HlsEmit.Proofs.Json.Records
import HlsEmit.Proofs.Json.Tokens
import HlsEmit.Proofs.Json.Written
import HlsEmit.Proofs.Model.Decoding
import HlsEmit.Proofs.Model.Description
import HlsEmit.Proofs.Model.IntegerAttributes
import HlsEmit.Proofs.Model.Loading
import HlsEmit.Proofs.Model.SharedIndices
import HlsEmit.Proofs.Outcome
import HlsEmit.Proofs.Project.Emission
import HlsEmit.Proofs.Project.FailurePolicy
import HlsEmit.Proofs.Project.Headers
import HlsEmit.Proofs.Project.Inertness
import HlsEmit.Proofs.Project.MissingVariables
import HlsEmit.Proofs.Project.OwnNames
import HlsEmit.Proofs.Template.BodySyntax
import HlsEmit.Proofs.Template.Consistency
import HlsEmit.Proofs.Template.Construction
import HlsEmit.Proofs.Template.Derivations
import HlsEmit.Proofs.Template.Offences
import HlsEmit.Proofs.Template.Parameters
import HlsEmit.Proofs.Template.Placeholders
import HlsEmit.Proofs.Template.Precedence
import HlsEmit.Proofs.Template.Rendering
import HlsEmit.Proofs.Template.Validation
import HlsEmit.Proofs.Text.CaseFolding
import HlsEmit.Proofs.Text.Characters
import HlsEmit.Proofs.Text.Offsets
import HlsEmit.Proofs.Text.Position
import HlsEmit.Table
import HlsEmit.Template.Basic
import HlsEmit.Template.Body
import HlsEmit.Template.Derivation
import HlsEmit.Template.Params
import HlsEmit.Template.Role
import HlsEmit.Text.Blank
import HlsEmit.Text.CaseMap
import HlsEmit.Text.Lines
import HlsEmit.Text.Position
import HlsEmit.Text.Property.CaseIgnorable
import HlsEmit.Text.Property.Cased
import HlsEmit.Text.Property.GraphemeExtend
import HlsEmit.Text.Property.LowerCase
import HlsEmit.Text.Property.Unprintable
import HlsEmit.Text.Property.UpperCase
import HlsEmit.Text.Property.Wide
import HlsEmit.Text.Quoted
import HlsEmit.Text.Ranges
import HlsEmit.Text.Width
