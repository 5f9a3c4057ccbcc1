import PlanImport.Engine.Catalog
import PlanImport.Text.Padded

/-!
# Why a plan is refused

The causes for which the lowering of a plan is given up, and their wording. The first cause that
is met ends the lowering.
-/

namespace PlanImport

open Engine

/-- A construct of plans of which only some kinds have a counterpart in the engine. -/
inductive Construct
  | expression
  | relation
  | literal
  | type
  deriving DecidableEq, Repr

/-- A choice that a plan makes by a number. -/
inductive Choice
  | join
  | setOperation
  | sortDirection
  | write
  deriving DecidableEq, Repr

/-- What is wrong with a reference to a field. -/
inductive ReferenceFault
  | masked
  | missingReference
  | missingSegment
  | mapKey
  | listElement
  | nestedChild (field : Int32)
  | negativeField (field : Int32)
  | negativeProjectedField (field : Int32)
  deriving DecidableEq, Repr

/-- What has no counterpart in the engine yet, although its kind has. -/
inductive Unimplemented
  | typeArgument
  | aggregateArgument
  | groupingSets (count : Nat)
  | mapEntries (count : Nat)
  | fileFormat
  | filePath
  | comparisonFunction
  | extensionTarget
  | deleteOver (operator : String)
  deriving DecidableEq, Repr

/-- What makes no sense in a plan. -/
inductive InputFault
  | literalRange (kind : String) (value : Int32)
  | yearMonthOverflow (years months : Int32)
  | secondsOverflow (seconds : Int32)
  | subsecondsOverflow (subseconds : Int64)
  | intervalPrecision (precision : Int32)
  | negativeCount (count : Int64)
  | negativeOffset (offset : Int64)
  | unnamedTable
  | tooManyNames (names : List String)
  | noFiles
  | noMetadataFile
  | snapshotId (text : String)
  | unnamedTarget
  deriving DecidableEq, Repr

inductive DecimalFault
  | payloadLength (length : Nat)
  | precision (precision : Int32)
  | scale (scale : Int32) (width : UInt8)
  | value (unscaled : Int) (width scale : UInt8)
  | type (precision scale : Int32)
  deriving DecidableEq, Repr

/-- Why a plan is refused. -/
inductive Refusal
  /-- The plan has no relation. -/
  | noRelation
  /-- A message or a choice that is needed is absent. -/
  | absent (field : String)
  /-- No function is declared under the anchor. -/
  | undeclared (anchor : UInt32)
  /-- The kind of a construct has no counterpart in the engine. -/
  | unsupported (construct : Construct) (kind : String)
  /-- The number of a choice stands for nothing in the engine. -/
  | unknownNumber (choice : Choice) (number : Int32)
  | reference (fault : ReferenceFault)
  /-- A call has the wrong number of arguments. -/
  | arity (function : String) (expected actual : Nat)
  /-- A part of a date is not one of those that can be extracted. -/
  | datePart (text : String)
  /-- A set operation does not have two inputs. -/
  | inputCount (count : Nat)
  | unimplemented (what : Unimplemented)
  | input (fault : InputFault)
  | decimal (fault : DecimalFault)
  /-- There are fewer names than output columns. -/
  | namesExhausted
  | catalog (error : NotFound)
  deriving DecidableEq, Repr

/-- An integer in a message. -/
def shown (n : Int) : String := .ofList (Text.decimal n)

def Construct.message : Construct → String → String
  | expression, kind => "Unsupported expression type: " ++ kind
  | relation, kind => "Unsupported relation type: " ++ kind
  | literal, kind => "Unsupported literal type: " ++ kind
  | type, kind => "Substrait type not yet supported: " ++ kind

def Choice.message : Choice → Int32 → String
  | join, number => "Unsupported join type " ++ shown number.toInt
  | setOperation, number =>
    "SetOperationType transform not implemented for SetRel_SetOp type " ++ shown number.toInt
  | sortDirection, number => "Unsupported ordering " ++ shown number.toInt
  | write, number => "Unsupported write operation " ++ shown number.toInt

def ReferenceFault.message : ReferenceFault → String
  | masked => "masked reference"
  | missingReference => "missing reference"
  | missingSegment => "missing segment"
  | mapKey => "map key"
  | listElement => "list element"
  | nestedChild field => "nested child of field " ++ shown field.toInt
  | negativeField field => "negative field " ++ shown field.toInt
  | negativeProjectedField field => "negative projected field " ++ shown field.toInt

def Unimplemented.message : Unimplemented → String
  | typeArgument => "Type arguments in Substrait expressions are not supported yet"
  | aggregateArgument => "non-value arguments to aggregate functions"
  | groupingSets count => "aggregate with " ++ shown count ++ " grouping sets"
  | mapEntries count => "map constructor with " ++ shown count ++ " entries"
  | fileFormat => "Unsupported type of local file for read operator on substrait"
  | filePath => "Unsupported type for file path, only uri_file and uri_path are supported"
  | comparisonFunction => "sort by comparison function reference"
  | extensionTarget => "write to an extension table"
  | deleteOver operator => "DELETE over " ++ operator ++ " (expected a filtered table scan)"

def InputFault.message : InputFault → String
  | literalRange kind value => kind ++ " literal " ++ shown value.toInt ++ " out of range"
  | yearMonthOverflow years months =>
    "interval of " ++ shown years.toInt ++ " years " ++ shown months.toInt ++ " months overflows"
  | secondsOverflow seconds => "interval of " ++ shown seconds.toInt ++ " seconds overflows"
  | subsecondsOverflow subseconds => "subseconds " ++ shown subseconds.toInt ++ " overflow"
  | intervalPrecision precision =>
    "interval precision " ++ shown precision.toInt ++ " outside 0..=9"
  | negativeCount count => "fetch count " ++ shown count.toInt ++ " is negative"
  | negativeOffset offset => "fetch offset " ++ shown offset.toInt ++ " is negative"
  | unnamedTable => "named table must have at least one name"
  | tooManyNames names =>
    "named table '" ++ ".".intercalate names ++ "' has more than two name parts"
  | noFiles => "local files read without files"
  | noMetadataFile => "Metadata file missing in iceberg table read in substrait"
  | snapshotId text => "Invalid snapshot id: " ++ text
  | unnamedTarget => "Named object must have at least one name"

def DecimalFault.message : DecimalFault → String
  | payloadLength length => "payload must be 16 bytes, got " ++ shown length
  | precision p => "precision " ++ shown p.toInt ++ " outside 1..=38"
  | scale s width => "scale " ++ shown s.toInt ++ " outside 0..=" ++ shown width.toNat
  | value unscaled w s =>
    "value " ++ shown unscaled ++ " does not fit DECIMAL(" ++ shown w.toNat ++ "," ++
      shown s.toNat ++ ")"
  | type p s => "DECIMAL(" ++ shown p.toInt ++ "," ++ shown s.toInt ++ ") is not a valid type"

def Refusal.message : Refusal → String
  | noRelation => "Substrait plan does not have a SELECT statement"
  | absent field => "Missing required field: " ++ field
  | undeclared anchor => "Could not find function with anchor " ++ shown anchor.toNat
  | unsupported construct kind => construct.message kind
  | unknownNumber choice number => choice.message number
  | reference fault => "Can only have direct struct references in selections: " ++ fault.message
  | arity function expected actual =>
    "Function '" ++ function ++ "' expects " ++ shown expected ++ " arguments, got " ++
      shown actual
  | datePart text => "Invalid extract subfield '" ++ text ++ "'"
  | inputCount count =>
    "The amount of inputs (" ++ shown count ++ ") is not supported for this set operation"
  | unimplemented what => "Not implemented: " ++ what.message
  | input fault => "Invalid input: " ++ fault.message
  | decimal fault => "Invalid decimal literal: " ++ fault.message
  | namesExhausted => "Root relation has fewer names than output columns"
  | catalog error => error.message

/-- What must not be absent. -/
def required (field : String) : Option α → Except Refusal α
  | some a => .ok a
  | none => .error (.absent field)

end PlanImport
