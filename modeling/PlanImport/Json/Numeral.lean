import PlanImport.Float.Format
import PlanImport.Json.Basic
import PlanImport.Number.IntText

/-!
# Numerals of JSON

A numeral is an integer if it has neither a fraction nor an exponent and fits into 64 bits;
every other one is a floating point number, and so is a negative zero. The floating point value
is the significand, rounded to a number, times or divided by a rounded power of ten, and need
not be the number nearest to the numeral.
-/

namespace PlanImport.Json

/-- A numeral as it is written. -/
structure Numeral where
  /-- Whether it starts with a minus. -/
  negative : Bool
  /-- The digits in front of the point. -/
  whole : List Char
  /-- The digits after the point, none if there is no point. -/
  part : List Char
  /-- Whether the exponent is negative, and its digits. -/
  exponent : Option (Bool × List Char)
  deriving DecidableEq, Repr

namespace Numeral

/-- Read digits into a significand as long as it stays below `2 ^ 64`; the digits from the first
one that does not fit are left. -/
def absorb (significand : Nat) : List Char → Nat × List Char
  | [] => (significand, [])
  | c :: rest =>
    let next := 10 * significand + (c.toNat - '0'.toNat)
    if next < 0x10000000000000000 then absorb next rest else (significand, c :: rest)

def power (e : Nat) : Nat := Float.roundRatio Float.double (Nat.pow 10 e) 1

/-- The magnitude of bits as a numerator and a denominator. -/
def magnitude (bits : Nat) : Nat × Nat :=
  match Float.decode Float.double bits with
  | .finite _ m q => Float.ratio m q
  | _ => (0, 1)

/-- The rounded product of two magnitudes. -/
def times (a b : Nat) : Nat :=
  let (n, d) := magnitude a
  let (n', d') := magnitude b
  Float.roundRatio Float.double (n * n') (d * d')

/-- The rounded quotient of two magnitudes. -/
def quotient (a b : Nat) : Nat :=
  let (n, d) := magnitude a
  let (n', d') := magnitude b
  Float.roundRatio Float.double (n * d') (d * n')

/-- Scale a magnitude by a power of ten. A power beyond `10 ^ 308` overflows, one below
`10 ^ -308` is divided by in steps; nothing is the answer for a magnitude that is too large. -/
def scale (bits : Nat) (e : Int) : Option Nat :=
  if 0 ≤ e then
    if e ≤ 308 then
      let scaled := times bits (power e.toNat)
      if scaled = Float.double.infinityBits then none else some scaled
    else if bits = 0 then some 0 else none
  else if -308 ≤ e then some (quotient bits (power (-e).toNat))
  else if bits = 0 then some 0
  else scale (quotient bits (power 308)) (e + 308)
termination_by e.natAbs

/-- The greatest exponent that is told from a greater one. -/
def maxExponent : Int := 0x7fffffff

/-- The magnitude of a numeral as a floating point number, if it is not too large. -/
def double? (n : Numeral) : Option Nat :=
  let (s, left) := absorb 0 n.whole
  let (significand, unread) := absorb s n.part
  let start : Int := left.length - (n.part.length - unread.length : Nat)
  let rounded := Float.roundRatio Float.double significand 1
  match n.exponent with
  | none => scale rounded start
  | some (negative, digits) =>
    let e : Int := IntText.value digits
    if maxExponent < e then if negative || significand = 0 then some 0 else none
    else if negative then scale rounded (max (start - e) (-maxExponent - 1))
    else scale rounded (min (start + e) maxExponent)

/-- The integer that a numeral stands for, if it has neither a fraction nor an exponent. -/
def int? (n : Numeral) : Option Int :=
  if n.part.isEmpty && n.exponent.isNone then
    let m : Int := IntText.value n.whole
    some (if n.negative then -m else m)
  else none

/-- The number that a numeral stands for, if it is not too large. -/
def number? (n : Numeral) : Option Number :=
  let asDouble := n.double?.map fun bits =>
    Number.double (UInt64.ofNat (Float.withSign Float.double n.negative bits))
  match n.int? with
  | some i =>
    if n.negative then if -0x8000000000000000 ≤ i ∧ i < 0 then some (.int i) else asDouble
    else if i < 0x10000000000000000 then some (.int i) else asDouble
  | none => asDouble

end Numeral

end PlanImport.Json
