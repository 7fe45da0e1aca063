import TypedInputs.Arguments
import TypedInputs.Catalog.Loader
import TypedInputs.Catalog.Yaml
import TypedInputs.Coercion
import TypedInputs.CommandLine
import TypedInputs.Description
import TypedInputs.Diagnostics.Settings
import TypedInputs.Json.Writer
import TypedInputs.Literal
import TypedInputs.Main
import TypedInputs.Proofs.Arguments
import TypedInputs.Proofs.Calendar.Count
import TypedInputs.Proofs.Calendar.Grammar
import TypedInputs.Proofs.Calendar.Text
import TypedInputs.Proofs.Catalog.History
import TypedInputs.Proofs.Catalog.Registration
import TypedInputs.Proofs.Catalog.RoundTrip
import TypedInputs.Proofs.Coercion.Account
import TypedInputs.Proofs.Coercion.Decimals
import TypedInputs.Proofs.Coercion.Escape
import TypedInputs.Proofs.Coercion.Harvest
import TypedInputs.Proofs.Coercion.InputNames
import TypedInputs.Proofs.Coercion.Integers
import TypedInputs.Proofs.Coercion.Isolation
import TypedInputs.Proofs.Coercion.Outcome
import TypedInputs.Proofs.Coercion.Soundness
import TypedInputs.Proofs.Coercion.Trail
import TypedInputs.Proofs.CommandLine.Agreement
import TypedInputs.Proofs.CommandLine.Attribution
import TypedInputs.Proofs.CommandLine.FixedPoint
import TypedInputs.Proofs.CommandLine.Rendering
import TypedInputs.Proofs.CommandLine.Validation
import TypedInputs.Proofs.Description.Actions
import TypedInputs.Proofs.Description.Derivation
import TypedInputs.Proofs.Diagnostics.Accounts
import TypedInputs.Proofs.Diagnostics.Attribution
import TypedInputs.Proofs.Diagnostics.BusRuns
import TypedInputs.Proofs.Diagnostics.Configuration
import TypedInputs.Proofs.Diagnostics.EventBus
import TypedInputs.Proofs.Diagnostics.Reports
import TypedInputs.Proofs.Fields
import TypedInputs.Proofs.Literal.Calendar
import TypedInputs.Proofs.Literal.Domain
import TypedInputs.Proofs.Literal.Floating
import TypedInputs.Proofs.Literal.Integers
import TypedInputs.Proofs.Literal.Narrowing
import TypedInputs.Proofs.Literal.Nesting
import TypedInputs.Proofs.Literal.Offsets
import TypedInputs.Proofs.Literal.Readings
import TypedInputs.Proofs.Literal.RoundTrip
import TypedInputs.Proofs.Literal.Zoned
import TypedInputs.Proofs.Number.Cuts
import TypedInputs.Proofs.Number.Decimal
import TypedInputs.Proofs.Number.Double
import TypedInputs.Proofs.Number.Integers
import TypedInputs.Proofs.Number.Nearest
import TypedInputs.Proofs.Number.Quantity
import TypedInputs.Proofs.Number.Rounding
import TypedInputs.Proofs.Number.Shortest
import TypedInputs.Proofs.Reporting
import TypedInputs.Proofs.Text.Digits
import TypedInputs.Proofs.Text.Grammar
import TypedInputs.Proofs.Text.Pattern
import TypedInputs.Proofs.Text.Trimming
import TypedInputs.Proofs.Text.Utf8
import TypedInputs.Proofs.Validation
import TypedInputs.Proofs.Zone.Gaps
import TypedInputs.Proofs.Zone.History
import TypedInputs.Proofs.Zone.Readings
import TypedInputs.Proofs.Zone.Resolution
