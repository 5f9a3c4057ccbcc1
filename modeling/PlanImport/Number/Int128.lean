/-!
# 128-bit integers

Signed integers of 128 bits, kept as integers with their bounds. They carry the unscaled
values of decimals and are never computed with, so there is no arithmetic here.
-/

namespace PlanImport

/-- A signed integer of 128 bits. -/
structure Int128 where
  /-- The value. -/
  toInt : Int
  /-- It is at least the least 128-bit integer. -/
  lower : -0x80000000000000000000000000000000 ≤ toInt
  /-- It is at most the greatest 128-bit integer. -/
  upper : toInt < 0x80000000000000000000000000000000
  deriving DecidableEq, Repr

namespace Int128

/-- The 128-bit integer of the given value, when it is in range. -/
def ofInt? (n : Int) : Option Int128 :=
  if h : -0x80000000000000000000000000000000 ≤ n ∧ n < 0x80000000000000000000000000000000 then
    some ⟨n, h.1, h.2⟩
  else none

@[ext] theorem ext {a b : Int128} (h : a.toInt = b.toInt) : a = b := by
  cases a; cases b; cases h; rfl

@[simp] theorem ofInt?_toInt (a : Int128) : ofInt? a.toInt = some a := by
  rw [ofInt?, dif_pos ⟨a.lower, a.upper⟩]

/-- The integer whose two's complement bytes are given, the least significant one first.
Only the low 128 bits count. -/
def ofBytes (bytes : List UInt8) : Int128 :=
  let n : Int := (bytes.foldr (fun b acc => b.toNat + 256 * acc) 0 : Nat)
  let m : Nat := 0x100000000000000000000000000000000
  ⟨n.bmod m, by have := Int.le_bmod (x := n) (m := m) (by decide); omega,
    by have := Int.bmod_lt (x := n) (m := m) (by decide); omega⟩

end Int128

end PlanImport
