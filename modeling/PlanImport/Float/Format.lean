/-!
# Binary floating point formats

The two interchange formats with one sign bit, a biased exponent and a stored fraction, read
and written as bit patterns. A finite number is `m * 2 ^ q` for natural `m`; rounding takes an
exact quotient of naturals to the nearest representable number, a tie to the even significand.
All arithmetic is exact arithmetic of naturals and integers.
-/

namespace PlanImport.Float

/-- A binary interchange format. -/
structure Format where
  /-- The number of stored fraction bits. -/
  fraction : Nat
  /-- The number of exponent bits. -/
  exponent : Nat
  deriving DecidableEq, Repr

/-- Numbers of 32 bits. -/
def single : Format := ⟨23, 8⟩

/-- Numbers of 64 bits. -/
def double : Format := ⟨52, 11⟩

namespace Format

/-- The exponent of the least unit: every finite number is a multiple of `2 ^ leastExponent`. -/
def leastExponent (f : Format) : Int := 2 - Nat.pow 2 (f.exponent - 1) - f.fraction

/-- The bits of infinity, which are also those of the first magnitude that is too large. -/
def infinityBits (f : Format) : Nat := (Nat.pow 2 f.exponent - 1) * Nat.pow 2 f.fraction

def signBit (f : Format) : Nat := Nat.pow 2 (f.fraction + f.exponent)

/-- The bits of the number that is no number. -/
def nanBits (f : Format) : Nat := f.infinityBits + Nat.pow 2 (f.fraction - 1)

end Format

/-- What a bit pattern stands for. -/
inductive Decoded
  /-- No number. -/
  | nan
  /-- An infinity, with its sign. -/
  | infinite (negative : Bool)
  /-- The number of magnitude `m * 2 ^ q`, with its sign. -/
  | finite (negative : Bool) (m : Nat) (q : Int)
  deriving DecidableEq, Repr

/-- Read a bit pattern. -/
def decode (f : Format) (bits : Nat) : Decoded :=
  let negative := f.signBit ≤ bits
  let e := bits / Nat.pow 2 f.fraction % Nat.pow 2 f.exponent
  let m := bits % Nat.pow 2 f.fraction
  if e = Nat.pow 2 f.exponent - 1 then
    if m = 0 then .infinite negative else .nan
  else if e = 0 then .finite negative m f.leastExponent
  else .finite negative (m + Nat.pow 2 f.fraction) (f.leastExponent + (e - 1))

/-- A quotient to the nearest natural, a tie to the even one. -/
def roundDiv (num den : Nat) : Nat :=
  let m := num / den
  let r := num % den
  if den < 2 * r ∨ (2 * r = den ∧ m % 2 = 1) then m + 1 else m

/-- The exponent `e` with `2 ^ e ≤ num / den < 2 ^ (e + 1)`, for positive `num` and `den`. -/
def floorLog2 (num den : Nat) : Int :=
  let k : Int := num.log2 - den.log2
  if num * Nat.pow 2 (-k).toNat < den * Nat.pow 2 k.toNat then k - 1 else k

/-- The bits of the magnitude nearest to `num / den`. A magnitude beyond the greatest finite
one becomes infinity. -/
def roundRatio (f : Format) (num den : Nat) : Nat :=
  if num = 0 then 0
  else
    let q := max (floorLog2 num den - f.fraction) f.leastExponent
    let m := roundDiv (num * Nat.pow 2 (-q).toNat) (den * Nat.pow 2 q.toNat)
    min ((q - f.leastExponent).toNat * Nat.pow 2 f.fraction + m) f.infinityBits

/-- The bits with the given sign and magnitude. -/
def withSign (f : Format) (negative : Bool) (magnitude : Nat) : Nat :=
  if negative then f.signBit + magnitude else magnitude

/-- The magnitude `m * 2 ^ q` as a numerator and a denominator. -/
def ratio (m : Nat) (q : Int) : Nat × Nat := (m * Nat.pow 2 q.toNat, Nat.pow 2 (-q).toNat)

/-- The nearest number of the format `g` to one of the format `f`. The sign of what is no number
is kept. -/
def convert (f g : Format) (bits : Nat) : Nat :=
  match decode f bits with
  | .nan => withSign g (f.signBit ≤ bits) g.nanBits
  | .infinite negative => withSign g negative g.infinityBits
  | .finite negative m q =>
    let (num, den) := ratio m q
    withSign g negative (roundRatio g num den)

/-- The nearest number to an integer. -/
def ofInt (f : Format) (n : Int) : Nat := withSign f (n < 0) (roundRatio f n.natAbs 1)

end PlanImport.Float
