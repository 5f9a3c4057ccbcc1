/-!
# Expressions of a plan

Types, literals and scalar expressions as a plan holds them. Kinds that are only ever refused
are kept by their name. Messages may be absent and a choice may be unset wherever the format
allows it; whether anything that is needed is missing shows when the plan is lowered.
-/

namespace PlanImport.Plan

inductive DataType
  /-- No kind is given. -/
  | unset
  | bool
  | i8
  | i16
  | i32
  | i64
  | fp32
  | fp64
  | string
  | varchar
  | date
  | decimal (scale precision : Int32)
  /-- A kind without a counterpart in the engine, by its name. -/
  | other (kind : String)
  deriving DecidableEq, Repr, Inhabited

/-- A decimal as the bytes of its unscaled value, the low ones first. -/
structure DecimalLiteral where
  bytes : List UInt8
  precision : Int32
  scale : Int32
  deriving DecidableEq, Repr, Inhabited

/-- An interval of days and seconds. -/
structure DaySecond where
  days : Int32
  seconds : Int32
  /-- The part of a second, if there is no precision. -/
  microseconds : Int64
  /-- How many digits of a second the subseconds have. -/
  precision : Option Int32
  /-- The part of a second in units of the precision. -/
  subseconds : Int64
  deriving DecidableEq, Repr, Inhabited

/-- The kind and value of a literal. -/
inductive LiteralKind
  /-- No kind is given. -/
  | unset
  /-- NULL, whatever its type. -/
  | null
  | boolean (b : Bool)
  | i8 (n : Int32)
  | i16 (n : Int32)
  | i32 (n : Int32)
  | i64 (n : Int64)
  | fp32 (bits : UInt32)
  | fp64 (bits : UInt64)
  | string (s : String)
  /-- Days since 1970-01-01. -/
  | date (days : Int32)
  /-- Microseconds since midnight. -/
  | time (micros : Int64)
  | yearMonth (years months : Int32)
  | daySecond (interval : DaySecond)
  | decimal (value : DecimalLiteral)
  /-- A kind without a counterpart in the engine, by its name. -/
  | other (kind : String)
  deriving DecidableEq, Repr, Inhabited

structure Literal where
  kind : LiteralKind
  nullable : Bool
  deriving DecidableEq, Repr, Inhabited

/-- A reference to a field of the input. -/
inductive FieldReference
  /-- No reference is given. -/
  | missing
  /-- A selection of parts of the input. -/
  | masked
  /-- A reference without a segment. -/
  | missingSegment
  | mapKey
  | listElement
  /-- A field of the input row by its position from zero, and whether it goes on into that
  field. -/
  | structField (field : Int32) (hasChild : Bool)
  deriving DecidableEq, Repr, Inhabited

mutual

inductive Expression
  /-- No kind is given. -/
  | unset
  | literal (value : Literal)
  | selection (reference : FieldReference)
  /-- A call of the function that is declared under the anchor. -/
  | call (anchor : UInt32) (arguments : List Argument)
  | ifThen (clauses : List Clause) (otherwise : Option Expression)
  | cast (target : Option DataType) (input : Option Expression)
  | inList (value : Option Expression) (options : List Expression)
  /-- A nested value without a kind. -/
  | nestedUnset
  | nestedStruct (fields : List Expression)
  | nestedList (items : List Expression)
  | nestedMap (entries : List MapEntry)
  /-- A kind without a counterpart in the engine, by its name. -/
  | other (kind : String)

inductive Argument
  /-- No kind is given. -/
  | unset
  /-- A choice among names, such as the part of a date. -/
  | option (name : String)
  | type
  | value (e : Expression)

/-- A condition with the result under it. -/
inductive Clause
  | mk (condition result : Option Expression)

inductive MapEntry
  | mk (key value : Option Expression)

end

deriving instance Inhabited for Expression, Argument

def Clause.condition : Clause → Option Expression
  | mk condition _ => condition

def Clause.result : Clause → Option Expression
  | mk _ result => result

end PlanImport.Plan
