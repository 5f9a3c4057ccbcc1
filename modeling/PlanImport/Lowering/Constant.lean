import PlanImport.Engine.Value
import PlanImport.Lowering.Refusal
import PlanImport.Number.IntText
import PlanImport.Plan.Expression

/-!
# The values of literals

Decimals come as sixteen bytes and are stored as their precision demands; intervals come in two
kinds, which become one of months, days and microseconds. Whatever does not fit is refused.
-/

namespace PlanImport.Plan

open Engine

/-! ### Integers -/

/-- An integer as one of 8 bits, if it fits. -/
def toInt8 (kind : String) (n : Int32) : Except Refusal Int8 :=
  if -0x80 ≤ n.toInt ∧ n.toInt < 0x80 then .ok (.ofInt n.toInt)
  else .error (.input (.literalRange kind n))

/-- An integer as one of 16 bits, if it fits. -/
def toInt16 (kind : String) (n : Int32) : Except Refusal Int16 :=
  if -0x8000 ≤ n.toInt ∧ n.toInt < 0x8000 then .ok (.ofInt n.toInt)
  else .error (.input (.literalRange kind n))

/-- An integer of 32 bits of the given value, if there is one. -/
def int32? (n : Int) : Option Int32 :=
  if -0x80000000 ≤ n ∧ n < 0x80000000 then some (.ofInt n) else none

/-- An integer of 64 bits of the given value, if there is one. -/
def int64? (n : Int) : Option Int64 :=
  if -0x8000000000000000 ≤ n ∧ n < 0x8000000000000000 then some (.ofInt n) else none

/-! ### Decimals -/

/-- A width, if decimals have it. -/
def width? (precision : Int32) : Option UInt8 :=
  if 1 ≤ precision.toInt ∧ precision.toInt ≤ maxDecimalWidth.toNat then
    some (.ofNat precision.toInt.toNat)
  else none

/-- A scale, if decimals of the width have it. -/
def scale? (width : UInt8) (scale : Int32) : Option UInt8 :=
  if 0 ≤ scale.toInt ∧ scale.toInt ≤ width.toNat then some (.ofNat scale.toInt.toNat) else none

def DecimalLiteral.value (d : DecimalLiteral) : Except Refusal Value := do
  if d.bytes.length ≠ 16 then throw (.decimal (.payloadLength d.bytes.length))
  let some width := width? d.precision | throw (.decimal (.precision d.precision))
  let some scale := scale? width d.scale | throw (.decimal (.scale d.scale width))
  let unscaled := Int128.ofBytes d.bytes
  let some stored := SizedInt.ofWidth? unscaled width
    | throw (.decimal (.value unscaled.toInt width scale))
  return .decimal stored width scale

/-! ### Intervals -/

/-- The interval of years and months. The years have to fit as months on their own. -/
def yearMonthValue (years months : Int32) : Except Refusal Value :=
  match (int32? (years.toInt * 12)).bind fun m => int32? (m.toInt + months.toInt) with
  | some total => .ok (.interval ⟨total, 0, 0⟩)
  | none => .error (.input (.yearMonthOverflow years months))

/-- The microseconds of units of `10 ^ -precision` seconds, rounded toward zero. -/
def microsOf (subseconds : Int64) (precision : Int32) : Except Refusal Int64 :=
  let p := precision.toInt
  if 0 ≤ p ∧ p ≤ 6 then
    match int64? (subseconds.toInt * Nat.pow 10 (6 - p).toNat) with
    | some micros => .ok micros
    | none => .error (.input (.subsecondsOverflow subseconds))
  else if 7 ≤ p ∧ p ≤ 9 then .ok (.ofInt (subseconds.toInt.tdiv (Nat.pow 10 (p - 6).toNat)))
  else .error (.input (.intervalPrecision precision))

def DaySecond.value (i : DaySecond) : Except Refusal Value := do
  let part ← match i.precision with
    | some p => microsOf i.subseconds p
    | none => .ok i.microseconds
  match int64? (i.seconds.toInt * 1000000 + part.toInt) with
  | some micros => return .interval ⟨0, i.days, micros⟩
  | none => throw (.input (.secondsOverflow i.seconds))

/-! ### Literals and types -/

def Literal.value (l : Literal) : Except Refusal Value :=
  match l.kind with
  | .unset => .error (.absent "literal_type")
  | .null => .ok .null
  | .boolean b => .ok (.boolean b)
  | .i8 n => (toInt8 "i8" n).map .tinyInt
  | .i16 n => (toInt16 "i16" n).map .smallInt
  | .i32 n => .ok (.integer n)
  | .i64 n => .ok (.bigInt n)
  | .fp32 bits => .ok (.float bits)
  | .fp64 bits => .ok (.double bits)
  | .string s => .ok (.varchar s)
  | .date days => .ok (.date days)
  | .time micros => .ok (.time micros)
  | .yearMonth years months => yearMonthValue years months
  | .daySecond i => i.value
  | .decimal d => d.value
  | .other kind => .error (.unsupported .literal kind)

/-- The engine's type for a type of a plan. -/
def DataType.sqlType : DataType → Except Refusal SqlType
  | unset => .error (.absent "type.kind")
  | bool => .ok .boolean
  | i8 => .ok .tinyInt
  | i16 => .ok .smallInt
  | i32 => .ok .integer
  | i64 => .ok .bigInt
  | fp32 => .ok .float
  | fp64 => .ok .double
  | string => .ok .varchar
  | varchar => .ok .varchar
  | date => .ok .date
  | decimal scale precision =>
    match (width? precision).bind fun w => (scale? w scale).map fun s => (w, s) with
    | some (w, s) => .ok (.decimal w s)
    | none => .error (.decimal (.type precision scale))
  | other kind => .error (.unsupported .type kind)

end PlanImport.Plan
