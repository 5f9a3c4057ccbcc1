import PlanImport.Calendar.Interval
import PlanImport.Engine.Decimal
import PlanImport.Engine.SqlType
import PlanImport.Float.Layout

/-!
# Values

The constants of the engine, their types and their texts. Floating point numbers are kept as
bit patterns.
-/

namespace PlanImport.Engine

/-- A constant. -/
inductive Value
  /-- NULL, of whatever type. -/
  | null
  | boolean (b : Bool)
  | tinyInt (n : Int8)
  | smallInt (n : Int16)
  | integer (n : Int32)
  | bigInt (n : Int64)
  | uBigInt (n : UInt64)
  /-- A floating point number of 32 bits, by its bit pattern. -/
  | float (bits : UInt32)
  /-- A floating point number of 64 bits, by its bit pattern. -/
  | double (bits : UInt64)
  | varchar (text : String)
  /-- Days since 1970-01-01. -/
  | date (days : Int32)
  /-- Microseconds since midnight. -/
  | time (micros : Int64)
  /-- Microseconds since the beginning of 1970-01-01. -/
  | timestamp (micros : Int64)
  | interval (i : Calendar.Interval)
  | decimal (storage : SizedInt) (width scale : UInt8)
  | list (items : List Value)
  deriving Repr, Inhabited

namespace Value

def isNull : Value → Bool
  | null => true
  | _ => false

mutual

/-- The type of a value. A list has the type of its first item that is not NULL. -/
def type : Value → SqlType
  | null => .sqlNull
  | boolean _ => .boolean
  | tinyInt _ => .tinyInt
  | smallInt _ => .smallInt
  | integer _ => .integer
  | bigInt _ => .bigInt
  | uBigInt _ => .uBigInt
  | float _ => .float
  | double _ => .double
  | varchar _ => .varchar
  | date _ => .date
  | time _ => .time
  | timestamp _ => .timestamp
  | interval _ => .interval
  | decimal _ width scale => .decimal width scale
  | list items => .list (.firstKnown (types items))

def types : List Value → List SqlType
  | [] => []
  | v :: rest => v.type :: types rest

end

mutual

/-- The text of a value. Texts stand without quotes. -/
def text : Value → String
  | null => "NULL"
  | boolean b => if b then "true" else "false"
  | tinyInt n => .ofList (Text.decimal n.toInt)
  | smallInt n => .ofList (Text.decimal n.toInt)
  | integer n => .ofList (Text.decimal n.toInt)
  | bigInt n => .ofList (Text.decimal n.toInt)
  | uBigInt n => .ofList (Text.decimal n.toNat)
  | float bits => .ofList (Float.chars Float.single Float.plain bits.toNat)
  | double bits => .ofList (Float.chars Float.double Float.plain bits.toNat)
  | varchar s => s
  | date days => .ofList (Calendar.Date.ofDays days.toInt).chars
  | time micros => .ofList (Calendar.clockChars micros.toInt)
  | timestamp micros => .ofList (Calendar.timestampChars micros.toInt)
  | interval i => .ofList i.chars
  | decimal storage _ scale => .ofList (decimalChars storage.toInt scale.toNat)
  | list items => "[" ++ ", ".intercalate (texts items) ++ "]"

def texts : List Value → List String
  | [] => []
  | v :: rest => v.text :: texts rest

end

end Value

end PlanImport.Engine
