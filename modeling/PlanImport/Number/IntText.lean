/-!
# Integers written as text

The grammar of a bounded integer: an optional sign and then one or more decimal digits, any
number of leading zeros included, with a value inside the bounds. A text outside it is refused
with the cause that is met first from the left.
-/

namespace PlanImport

/-- Why a text is no integer within the bounds. -/
inductive IntTextError
  /-- There is no text at all. -/
  | empty
  /-- There is no digit, or something that is no digit follows digits still in bounds. -/
  | invalidDigit
  /-- The digits read so far exceed the upper bound. -/
  | tooLarge
  /-- The digits read so far fall short of the lower bound. -/
  | tooSmall
  deriving DecidableEq, Repr

def IntTextError.message : IntTextError → String
  | .empty => "cannot parse integer from empty string"
  | .invalidDigit => "invalid digit found in string"
  | .tooLarge => "number too large to fit in target type"
  | .tooSmall => "number too small to fit in target type"

namespace IntText

/-- The value of decimal digits, the most significant one first. -/
def value (digits : List Char) : Nat :=
  digits.foldl (fun n c => 10 * n + (c.toNat - '0'.toNat)) 0

/-- The unsigned part of an integer text. The sign is applied to its value before the bounds
are looked at. -/
def readDigits (lo hi : Int) (negative : Bool) (cs : List Char) : Except IntTextError Int :=
  let digits := cs.takeWhile Char.isDigit
  let n : Int := if negative then -(value digits : Int) else value digits
  if n < lo then .error .tooSmall
  else if hi < n then .error .tooLarge
  else if digits.isEmpty || digits.length < cs.length then .error .invalidDigit
  else .ok n

/-- Read an integer between `lo` and `hi`, both included. -/
def read (lo hi : Int) : List Char → Except IntTextError Int
  | [] => .error .empty
  | '+' :: cs => readDigits lo hi false cs
  | '-' :: cs => readDigits lo hi true cs
  | cs => readDigits lo hi false cs

def readInt64 (cs : List Char) : Except IntTextError Int64 :=
  (read (-0x8000000000000000) 0x7fffffffffffffff cs).map Int64.ofInt

end IntText

end PlanImport
