import PlanImport.Number.Int128
import PlanImport.Text.Padded

/-!
# Decimals

A decimal is an unscaled integer with a width and a scale. The width, the number of digits that
were declared, selects the narrowest integer type that holds every number of so many digits;
the scale says how many digits stand after the point in its text.
-/

namespace PlanImport.Engine

def maxDecimalWidth : UInt8 := 38

/-- The unscaled value of a decimal in its integer type. -/
inductive SizedInt
  | int8 (n : Int8)
  | int16 (n : Int16)
  | int32 (n : Int32)
  | int64 (n : Int64)
  | int128 (n : Int128)
  deriving DecidableEq, Repr

namespace SizedInt

def toInt : SizedInt → Int
  | int8 n => n.toInt
  | int16 n => n.toInt
  | int32 n => n.toInt
  | int64 n => n.toInt
  | int128 n => n.toInt

/-- Whether an integer is one of the signed integers from `-half` up to and without `half`. -/
def fits (half n : Int) : Bool := -half ≤ n && n < half

/-- Store a value in the integer type that the width selects, if it is in the range of that type.
A width that no decimal has selects the widest type. -/
def ofWidth? (value : Int128) (width : UInt8) : Option SizedInt :=
  let n := value.toInt
  if width ≤ 2 then if fits 0x80 n then some (int8 (Int8.ofInt n)) else none
  else if width ≤ 4 then if fits 0x8000 n then some (int16 (Int16.ofInt n)) else none
  else if width ≤ 9 then if fits 0x80000000 n then some (int32 (Int32.ofInt n)) else none
  else if width ≤ 18 then if fits 0x8000000000000000 n then some (int64 (Int64.ofInt n)) else none
  else some (int128 value)

end SizedInt

/-- The text of an unscaled value, with the point so many digits from the right. There is always
a digit before the point. -/
def decimalChars (unscaled : Int) (scale : Nat) : List Char :=
  let ds := Text.digits unscaled.natAbs
  let sign := if unscaled < 0 then ['-'] else []
  if scale = 0 then sign ++ ds
  else
    let filled := List.replicate (scale + 1 - ds.length) '0' ++ ds
    sign ++ filled.take (filled.length - scale) ++ '.' :: filled.drop (filled.length - scale)

end PlanImport.Engine
