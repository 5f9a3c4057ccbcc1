import PlanImport.Float.Shortest
import PlanImport.Text.Padded

/-!
# Floating point numbers as text

How the shortest digits of a number are laid out. The plain layout is positional at every
magnitude; the other one writes a point in every positional number and changes to an exponent
for very large and very small magnitudes.
-/

namespace PlanImport.Float

/-- The decisions of a layout. -/
structure Layout where
  /-- Which of two equally near decimals is written. -/
  tie : Tie
  /-- The places of the first digit left of the point, between these two and the second
  included, of the numbers that are written without an exponent; without this pair all are. -/
  positional : Option (Int × Int)
  /-- Whether a whole number is written with a point and a zero. -/
  point : Bool

/-- The plain layout: never an exponent, no point in whole numbers, ties away from zero. -/
def plain : Layout := ⟨.away, none, false⟩

/-- The layout of numbers of 64 bits in JSON texts. -/
def jsonDouble : Layout := ⟨.even, some (-5, 16), true⟩

/-- The layout of numbers of 32 bits in JSON texts. -/
def jsonSingle : Layout := ⟨.even, some (-6, 13), true⟩

/-- Digits with the point after the first `place` of them, filled with zeros where there are no
digits. -/
def positionalChars (point : Bool) (ds : List Char) (place : Int) : List Char :=
  if place ≤ 0 then ['0', '.'] ++ List.replicate (-place).toNat '0' ++ ds
  else
    let whole := ds.take place.toNat ++ List.replicate (place.toNat - ds.length) '0'
    let rest := ds.drop place.toNat
    if rest.isEmpty then whole ++ (if point then ['.', '0'] else [])
    else whole ++ '.' :: rest

/-- Digits with the point after the first one and an exponent, which always has a sign. -/
def exponentChars (ds : List Char) (place : Int) : List Char :=
  let exponent := place - 1
  let sign := if exponent < 0 then '-' else '+'
  ds.take 1 ++ (if ds.length = 1 then [] else '.' :: ds.drop 1) ++
    'e' :: sign :: Text.digits exponent.natAbs

/-- The text of a positive decimal. -/
def decimalChars (l : Layout) (d : Decimal) : List Char :=
  let ds := Text.digits d.digits
  let place := ds.length + d.exponent
  match l.positional with
  | none => positionalChars l.point ds place
  | some (least, greatest) =>
    if least < place ∧ place ≤ greatest then positionalChars l.point ds place
    else exponentChars ds place

/-- The text of a number of the given format. -/
def chars (f : Format) (l : Layout) (bits : Nat) : List Char :=
  match decode f bits with
  | .nan => ['N', 'a', 'N']
  | .infinite negative => (if negative then ['-'] else []) ++ ['i', 'n', 'f']
  | .finite negative m q =>
    (if negative then ['-'] else []) ++
      (if m = 0 then '0' :: (if l.point then ['.', '0'] else [])
      else decimalChars l (shortest f l.tie m q))

end PlanImport.Float
