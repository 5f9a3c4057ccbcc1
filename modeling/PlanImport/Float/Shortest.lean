import PlanImport.Float.Format

/-!
# Shortest decimal digits

The fewest decimal digits that read back as a given binary number. Among the decimals of that
many digits that do, it is the one nearest to the number; which of two equally near ones is
taken is left to the caller.
-/

namespace PlanImport.Float

/-- Which of two equally near decimals is written. -/
inductive Tie
  /-- The one with the greater magnitude. -/
  | away
  /-- The one with an even last digit. -/
  | even
  deriving DecidableEq, Repr

/-- The decimal number `digits * 10 ^ exponent`. -/
structure Decimal where
  /-- The significant digits as a natural number. -/
  digits : Nat
  /-- The power of ten. -/
  exponent : Int
  deriving DecidableEq, Repr

/-- The decimals that read back as a binary number, in quarters of its unit: from `lower` to
`upper` around `4 * m`, with the ends exactly when the significand is even. -/
structure Interval where
  /-- The lower end. -/
  lower : Nat
  /-- The upper end. -/
  upper : Nat
  /-- Whether the ends belong to it. -/
  closed : Bool
  deriving DecidableEq, Repr

/-- The reals nearer to `m * 2 ^ q` than to any other number of the format. Below a power of two
the neighbour is half as far. -/
def Interval.around (f : Format) (m : Nat) (q : Int) : Interval where
  lower := if m = Nat.pow 2 f.fraction ∧ f.leastExponent < q then 4 * m - 1 else 4 * m - 2
  upper := 4 * m + 2
  closed := m % 2 = 0

/-- Whether the quotient `num / den` lies in the interval. -/
def Interval.has (i : Interval) (num den : Nat) : Bool :=
  if i.closed then i.lower * den ≤ num && num ≤ i.upper * den
  else i.lower * den < num && num < i.upper * den

/-- The exponent `e` with `10 ^ e ≤ num / den < 10 ^ (e + 1)`, for positive `num` and `den`. -/
def floorLog10 (num den : Nat) : Int :=
  let least := (floorLog2 num den * 1233).fdiv 4096
  let reaches (e : Int) : Bool := den * Nat.pow 10 e.toNat ≤ num * Nat.pow 10 (-e).toNat
  if reaches (least + 1) then least + 1
  else if reaches least then least
  else least - 1

/-- The nearer of the two neighbours of `m * 2 ^ q` among the multiples of `10 ^ k`, if one of
them is in the interval. -/
def onGrid (i : Interval) (tie : Tie) (m : Nat) (q k : Int) : Option Nat :=
  -- `m * 2 ^ q / 10 ^ k` is `m * scale / den`
  let scale := Nat.pow 2 q.toNat * Nat.pow 10 (-k).toNat
  let den := Nat.pow 2 (-q).toNat * Nat.pow 10 k.toNat
  let below := m * scale / den
  let rest := m * scale % den
  let lowerFits := i.has (4 * below * den) scale
  let upperFits := i.has (4 * (below + 1) * den) scale
  let up := den < 2 * rest ∨ (2 * rest = den ∧ (tie = .away ∨ below % 2 = 1))
  match lowerFits, upperFits with
  | true, true => some (if up then below + 1 else below)
  | true, false => some below
  | false, true => some (below + 1)
  | false, false => none

/-- The first grid from `10 ^ k` downwards that has a number in the interval, `10 ^ (k - left)`
being the last one looked at. -/
def coarsest (i : Interval) (tie : Tie) (m : Nat) (q : Int) : Nat → Int → Decimal
  | 0, k => ⟨(onGrid i tie m q k).getD 0, k⟩
  | left + 1, k =>
    match onGrid i tie m q k with
    | some d => ⟨d, k⟩
    | none => coarsest i tie m q left (k - 1)

/-- Move the zeros at the end of the digits into the exponent. -/
def Decimal.strip (d : Decimal) : Nat → Decimal
  | 0 => d
  | left + 1 => if d.digits % 10 = 0 then Decimal.strip ⟨d.digits / 10, d.exponent + 1⟩ left else d

/-- The shortest decimal that reads back as the positive number `m * 2 ^ q`. Seventeen digits
always do, for numbers of at most 53 significant bits. -/
def shortest (f : Format) (tie : Tie) (m : Nat) (q : Int) : Decimal :=
  let (num, den) := ratio m q
  (coarsest (.around f m q) tie m q 17 (floorLog10 num den)).strip 20

end PlanImport.Float
