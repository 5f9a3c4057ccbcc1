/-!
# Zero-padded integers

Fixed-width decimal fields. The sign counts as one of the columns and the zeros go between
the sign and the digits, so `-1` in four columns is `-001`.
-/

namespace PlanImport.Text

/-- The decimal digits of a natural number. -/
def digits (n : Nat) : List Char := Nat.toDigits 10 n

/-- An integer in at least `width` columns, filled with zeros after the sign. -/
def padded (width : Nat) (n : Int) : List Char :=
  let sign := if n < 0 then ['-'] else []
  let ds := digits n.natAbs
  sign ++ List.replicate (width - sign.length - ds.length) '0' ++ ds

/-- An integer in as few columns as it needs. -/
def decimal (n : Int) : List Char := padded 0 n

theorem decimal_of_nonneg {n : Int} (h : 0 ≤ n) : decimal n = digits n.natAbs := by
  simp [decimal, padded, Int.not_lt.2 h]

theorem decimal_of_neg {n : Int} (h : n < 0) : decimal n = '-' :: digits n.natAbs := by
  simp [decimal, padded, h]

end PlanImport.Text
