import PlanImport.Calendar.Clock
import PlanImport.Calendar.Date
import PlanImport.Calendar.Interval
import PlanImport.Engine.Catalog
import PlanImport.Engine.Decimal
import PlanImport.Engine.Explain
import PlanImport.Engine.Expr
import PlanImport.Engine.OfRaw
import PlanImport.Engine.Relation
import PlanImport.Engine.SqlType
import PlanImport.Engine.ToJson
import PlanImport.Engine.Value
import PlanImport.Float.Format
import PlanImport.Float.Layout
import PlanImport.Float.Reading
import PlanImport.Float.Shortest
import PlanImport.Json.Basic
import PlanImport.Json.Fields
import PlanImport.Json.Numeral
import PlanImport.Json.Printer
import PlanImport.Json.Raw
import PlanImport.Json.Token
import PlanImport.Keyed
import PlanImport.Lowering.Constant
import PlanImport.Lowering.Context
import PlanImport.Lowering.Expression
import PlanImport.Lowering.Functions
import PlanImport.Lowering.NameStream
import PlanImport.Lowering.Read
import PlanImport.Lowering.Refusal
import PlanImport.Lowering.Rel
import PlanImport.Lowering.Root
import PlanImport.Message.Basic
import PlanImport.Message.Binary
import PlanImport.Message.OfJson
import PlanImport.Message.Reading
import PlanImport.Message.ScalarJson
import PlanImport.Message.Schema
import PlanImport.Number.Int128
import PlanImport.Number.IntText
import PlanImport.Plan.Basic
import PlanImport.Plan.Expression
import PlanImport.Plan.Formats
import PlanImport.Plan.OfMessage
import PlanImport.Proofs.Binary.Decoded
import PlanImport.Proofs.Binary.Items
import PlanImport.Proofs.Binary.Recode
import PlanImport.Proofs.Binary.RoundTrip
import PlanImport.Proofs.Calendar.Clock
import PlanImport.Proofs.Calendar.Dates
import PlanImport.Proofs.Calendar.IntervalBounds
import PlanImport.Proofs.Calendar.IntervalLiterals
import PlanImport.Proofs.Calendar.Intervals
import PlanImport.Proofs.Calendar.Timestamps
import PlanImport.Proofs.Catalog
import PlanImport.Proofs.Catalog.Additions
import PlanImport.Proofs.Decimal.Literal
import PlanImport.Proofs.Decimal.Text
import PlanImport.Proofs.Explain.Legible
import PlanImport.Proofs.Explain.Outline
import PlanImport.Proofs.Explain.Shown
import PlanImport.Proofs.Json.Agreement
import PlanImport.Proofs.Json.ByKeys
import PlanImport.Proofs.Json.Depth
import PlanImport.Proofs.Json.Edits
import PlanImport.Proofs.Json.Known
import PlanImport.Proofs.Json.Order
import PlanImport.Proofs.Json.Printed
import PlanImport.Proofs.Json.PrintedFields
import PlanImport.Proofs.Json.Text
import PlanImport.Proofs.Json.Typed
import PlanImport.Proofs.Json.Values
import PlanImport.Proofs.Kept.Calls
import PlanImport.Proofs.Kept.Leaves
import PlanImport.Proofs.Kept.Relation
import PlanImport.Proofs.Keyed
import PlanImport.Proofs.Lowering.Constant
import PlanImport.Proofs.Lowering.Corresponding
import PlanImport.Proofs.Lowering.Declarations
import PlanImport.Proofs.Lowering.Expression
import PlanImport.Proofs.Lowering.Read
import PlanImport.Proofs.Lowering.Rel
import PlanImport.Proofs.Lowering.Run
import PlanImport.Proofs.Meaning.Engine
import PlanImport.Proofs.Meaning.Expression
import PlanImport.Proofs.Meaning.Plan
import PlanImport.Proofs.Meaning.Relation
import PlanImport.Proofs.Meaning.Rows
import PlanImport.Proofs.Message.Bytes
import PlanImport.Proofs.Message.Names
import PlanImport.Proofs.Message.Typed
import PlanImport.Proofs.Naming.Columns
import PlanImport.Proofs.Naming.CreatedTable
import PlanImport.Proofs.Naming.Fields
import PlanImport.Proofs.Naming.FlatList
import PlanImport.Proofs.Naming.NameStream
import PlanImport.Proofs.Naming.Path
import PlanImport.Proofs.Naming.Picked
import PlanImport.Proofs.Naming.Relation
import PlanImport.Proofs.Naming.Root
import PlanImport.Proofs.Naming.Taken
import PlanImport.Proofs.Naming.Unnamed
import PlanImport.Proofs.Naming.Windows
import PlanImport.Proofs.Number.Digits
import PlanImport.Proofs.Number.IntText
import PlanImport.Proofs.Plan.Formats
import PlanImport.Proofs.Plan.Integers
import PlanImport.Proofs.ReadBack.Expression
import PlanImport.Proofs.ReadBack.Relation
import PlanImport.Proofs.ReadBack.Value
import PlanImport.Proofs.Scans.Calls
import PlanImport.Proofs.Scans.LockMode
import PlanImport.Proofs.Scans.Numbers
import PlanImport.Proofs.Scans.Repeated
import PlanImport.Proofs.Service.Requests
import PlanImport.Proofs.Text.Base64
import PlanImport.Proofs.Text.Base64Alphabets
import PlanImport.Proofs.Text.Base64Bits
import PlanImport.Proofs.Text.Columns
import PlanImport.Proofs.Typing.Order
import PlanImport.Proofs.WellFormed.Basic
import PlanImport.Proofs.WellFormed.Expression
import PlanImport.Proofs.WellFormed.Read
import PlanImport.Proofs.WellFormed.Relation
import PlanImport.Proofs.Wire
import PlanImport.Proofs.Writes.Delete
import PlanImport.Service.Config
import PlanImport.Service.Request
import PlanImport.Text.Base64
import PlanImport.Text.Blank
import PlanImport.Text.Padded
import PlanImport.Text.Printable
import PlanImport.Text.Quoted
import PlanImport.Wire.Item
import PlanImport.Wire.Varint
