import PlanImport.Float.Format
import PlanImport.Number.IntText

/-!
# Reading floating point numbers

The grammar of a number: an optional sign, decimal digits with an optional point and at least
one digit on some side of it, and an optional exponent; or one of the words for what is not
finite, in either case of letters. The value is the nearest number of the format.
-/

namespace PlanImport.Float

/-- The bits of the magnitude nearest to `digits * 10 ^ exponent`. -/
def roundDecimal (f : Format) (digits : Nat) (exponent : Int) : Nat :=
  let place : Int := (Nat.toDigits 10 digits).length + exponent
  if digits = 0 then 0
  -- beyond these places everything is infinite or zero in both formats
  else if 400 < place then f.infinityBits
  else if place < -400 then 0
  else roundRatio f (digits * Nat.pow 10 exponent.toNat) (Nat.pow 10 (-exponent).toNat)

/-- Why a text is no number. -/
inductive TextError
  /-- There is no text at all. -/
  | empty
  /-- The text is not of the grammar. -/
  | invalid
  deriving DecidableEq, Repr

def TextError.message : TextError → String
  | .empty => "cannot parse float from empty string"
  | .invalid => "invalid float literal"

/-- An exponent without its letter. The empty text stands for no exponent. -/
def readExponent : List Char → Option Int
  | [] => some 0
  | letter :: cs =>
    let (negative, ds) := match cs with
      | '+' :: ds => (false, ds)
      | '-' :: ds => (true, ds)
      | ds => (false, ds)
    if (letter = 'e' || letter = 'E') && !ds.isEmpty && ds.all Char.isDigit then
      let n : Int := IntText.value ds
      some (if negative then -n else n)
    else none

/-- The magnitude of a text of digits. -/
def readDigits (f : Format) (cs : List Char) : Option Nat :=
  let whole := cs.takeWhile Char.isDigit
  let rest := cs.dropWhile Char.isDigit
  let (part, tail) := match rest with
    | '.' :: ds => (ds.takeWhile Char.isDigit, ds.dropWhile Char.isDigit)
    | ds => ([], ds)
  if whole.isEmpty && part.isEmpty then none
  else
    (readExponent tail).map fun e =>
      roundDecimal f (IntText.value (whole ++ part)) (e - part.length)

/-- The magnitude of a text without a sign. -/
def readMagnitude (f : Format) (cs : List Char) : Option Nat :=
  match readDigits f cs with
  | some bits => some bits
  | none =>
    let word := String.ofList (cs.map Char.toLower)
    if word = "inf" || word = "infinity" then some f.infinityBits
    else if word = "nan" then some f.nanBits
    else none

/-- The bits of the number that a text stands for. -/
def read (f : Format) (cs : List Char) : Except TextError Nat :=
  let (negative, rest) := match cs with
    | '+' :: cs => (false, cs)
    | '-' :: cs => (true, cs)
    | cs => (false, cs)
  if cs.isEmpty then .error .empty
  else match readMagnitude f rest with
    | some bits => .ok (withSign f negative bits)
    | none => .error .invalid

end PlanImport.Float
