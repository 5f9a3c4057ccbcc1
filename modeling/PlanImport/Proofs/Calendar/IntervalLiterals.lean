import Mathlib.Algebra.Field.Basic
import Mathlib.Data.Rat.Floor
import Mathlib.Tactic.Linarith
import PlanImport.Proofs.Lowering.Constant

/-!
# Interval literals

Years and months become months, and seconds and their part become microseconds, as the integers
that they are: a literal has a value only if the numbers fit. What is left of the part below the
microsecond is cut off.
-/

namespace PlanImport

namespace Plan

open Engine

/-! ### Rounding toward zero -/

/-- The integer that is left of a number without its fraction. -/
def towardZero (x : ℚ) : ℤ := if 0 ≤ x then ⌊x⌋ else ⌈x⌉

lemma towardZero_intCast (n : ℤ) : towardZero n = n := by
  unfold towardZero
  rw [Int.floor_intCast, Int.ceil_intCast, ite_self]

lemma abs_towardZero_sub_lt (x : ℚ) : |(towardZero x : ℚ) - x| < 1 := by
  rw [abs_lt]
  unfold towardZero
  split_ifs
  · constructor <;> linarith [Int.floor_le x, Int.lt_floor_add_one x]
  · constructor <;> linarith [Int.le_ceil x, Int.ceil_lt_add_one x]

/-- Division of integers rounds toward zero. -/
lemma towardZero_div (n : ℤ) {d : ℕ} (hd : 0 < d) : towardZero (n / d) = n.tdiv d := by
  have hnonneg : 0 ≤ (n : ℚ) / d ↔ 0 ≤ n := by
    rw [le_div_iff₀ (Nat.cast_pos.mpr hd), zero_mul, Int.cast_nonneg_iff]
  unfold towardZero
  rw [Rat.floor_intCast_div_natCast, Rat.ceil_intCast_div_natCast, if_congr hnonneg rfl rfl]
  split_ifs with hn
  · exact (Int.tdiv_eq_ediv_of_nonneg hn).symm
  · rw [← Int.tdiv_eq_ediv_of_nonneg (by omega), Int.neg_tdiv, neg_neg]

/-! ### Parts of a second -/

/-- Units of a microsecond or more are whole microseconds. -/
lemma mul_zpow_of_le (n : ℤ) {precision : ℤ} (h : precision ≤ 6) :
    (n : ℚ) * 10 ^ (6 - precision) = (n * (Nat.pow 10 (6 - precision).toNat : ℕ) : ℤ) := by
  obtain ⟨k, hk⟩ := Int.eq_ofNat_of_zero_le (by omega : 0 ≤ 6 - precision)
  rw [hk, zpow_natCast, Int.toNat_natCast, Nat.pow_eq]
  push_cast
  rfl

/-- Smaller units are a fraction of a microsecond. -/
lemma mul_zpow_of_ge (n : ℤ) {precision : ℤ} (h : 6 ≤ precision) :
    (n : ℚ) * 10 ^ (6 - precision) = n / (Nat.pow 10 (precision - 6).toNat : ℕ) := by
  obtain ⟨k, hk⟩ := Int.eq_ofNat_of_zero_le (by omega : 0 ≤ precision - 6)
  rw [hk, show 6 - precision = -(k : ℤ) by omega, zpow_neg, zpow_natCast, Int.toNat_natCast,
    Nat.pow_eq, Nat.cast_pow, div_eq_mul_inv]
  rfl

/-- Up to six digits the units are multiplied, beyond them they are divided; both are the exact
quotient without its fraction. -/
lemma microsOf_eq_ok_iff {subseconds micros : Int64} {precision : Int32} :
    microsOf subseconds precision = .ok micros ↔
      (0 ≤ precision.toInt ∧ precision.toInt ≤ 9) ∧
      micros.toInt = towardZero (subseconds.toInt * 10 ^ (6 - precision.toInt)) := by
  unfold microsOf
  dsimp only
  split_ifs with hsmall hlarge
  · rw [mul_zpow_of_le _ hsmall.2, towardZero_intCast, ← int64?_eq_some_iff]
    cases int64? (subseconds.toInt * (Nat.pow 10 (6 - precision.toInt).toNat : ℕ)) with
    | none => simp
    | some m =>
      rw [Except.ok.injEq, Option.some.injEq, iff_and_self]
      exact fun _ => ⟨hsmall.1, hsmall.2.trans (by decide)⟩
  · have hunit : 10 ≤ Nat.pow 10 (precision.toInt - 6).toNat := Nat.le_self_pow (by omega) 10
    rw [mul_zpow_of_ge _ (by omega), towardZero_div _ (by omega), Except.ok.injEq]
    generalize Nat.pow 10 (precision.toInt - 6).toNat = unit at hunit
    -- The quotient is no more than a tenth of the subseconds, so it fits.
    have hquot : (subseconds.toInt.tdiv unit).natAbs ≤ subseconds.toInt.natAbs / 10 := by
      rw [Int.natAbs_tdiv, Int.natAbs_natCast]
      exact Nat.div_le_div_left hunit (by decide)
    have hlow := subseconds.le_toInt
    have hhigh := subseconds.toInt_lt
    rw [← Int64.toInt_inj, Int64.toInt_ofInt_of_le (by omega) (by omega), eq_comm, iff_and_self]
    exact fun _ => ⟨by omega, hlarge.2⟩
  · simp only [false_iff, not_and]
    omega

/-- Subseconds before zero are rounded up. -/
example : microsOf (-1999) 9 = .ok (-1) := by decide +kernel

namespace DaySecond

variable {i : DaySecond}

/-- The part of a second in microseconds. -/
def exactPart (i : DaySecond) : ℚ :=
  match i.precision with
  | some p => i.subseconds.toInt * 10 ^ (6 - p.toInt)
  | none => i.microseconds.toInt

/-- The seconds and their part in microseconds. -/
def exactMicros (i : DaySecond) : ℚ := i.seconds.toInt * 1000000 + i.exactPart

/-- Whether the precision, if there is one, is that of an interval. -/
def PrecisionInRange (i : DaySecond) : Prop := ∀ p ∈ i.precision, 0 ≤ p.toInt ∧ p.toInt ≤ 9

lemma part_eq_ok_iff {part : Int64} :
    i.part = .ok part ↔ i.PrecisionInRange ∧ part.toInt = towardZero i.exactPart := by
  unfold DaySecond.part exactPart PrecisionInRange
  cases i.precision with
  | some p => simp only [microsOf_eq_ok_iff, Option.mem_def, Option.some.injEq, forall_eq']
  | none => simp [towardZero_intCast, ← Int64.toInt_inj, eq_comm]

lemma value_eq_ok_iff {v : Value} :
    i.value = .ok v ↔ i.PrecisionInRange ∧ ∃ part micros : Int64,
      part.toInt = towardZero i.exactPart ∧
      micros.toInt = i.seconds.toInt * 1000000 + part.toInt ∧ v = .interval ⟨0, i.days, micros⟩ := by
  simp only [value_eq_ok, part_eq_ok_iff, int64?_eq_some_iff, and_assoc, exists_and_left]

/-- A precision that is negative or greater than nine is refused, whatever the parts are. -/
lemma value_of_not_inRange {p : Int32} (hp : i.precision = some p)
    (h : ¬ (0 ≤ p.toInt ∧ p.toInt ≤ 9)) : i.value = .error (.input (.intervalPrecision p)) := by
  have hmicros : microsOf i.subseconds p = .error (.input (.intervalPrecision p)) := by
    unfold microsOf
    dsimp only
    rw [if_neg (by omega), if_neg (by omega)]
  unfold DaySecond.value
  simp only [hp, hmicros]
  rfl

/-- Rounding changes the microseconds by less than one, and does not change them if the subseconds
are no finer than microseconds. -/
lemma abs_micros_sub_exactMicros {part micros : Int64} (hpart : part.toInt = towardZero i.exactPart)
    (hmicros : micros.toInt = i.seconds.toInt * 1000000 + part.toInt) :
    |(micros.toInt : ℚ) - i.exactMicros| < 1 ∧
      ((∀ p ∈ i.precision, p.toInt ≤ 6) → (micros.toInt : ℚ) = i.exactMicros) := by
  unfold exactMicros
  rw [hmicros, hpart]
  push_cast
  rw [add_sub_add_left_eq_sub, add_right_inj]
  refine ⟨abs_towardZero_sub_lt _, fun h => ?_⟩
  unfold exactPart
  cases hp : i.precision with
  | some p =>
    dsimp only
    rw [mul_zpow_of_le _ (h p hp), towardZero_intCast]
  | none => exact congrArg _ (towardZero_intCast _)

end DaySecond

/-! ### Literals -/

/-- How interval literals are read. -/
structure ReadsIntervals (value : Literal → Except Refusal Value) : Prop where
  /-- Years and months have a value if the years in months are a number of 32 bits and all the
  months are one. This is the number of months. -/
  yearMonth : ∀ l years months, l.kind = .yearMonth years months → ∀ v, value l = .ok v ↔
    ∃ folded total : Int32, folded.toInt = 12 * years.toInt ∧
      total.toInt = 12 * years.toInt + months.toInt ∧ v = .interval ⟨total, 0, 0⟩
  /-- Days and seconds have a value if the precision is in range and the part of a second, rounded
  toward zero, is a number of 64 bits and so are all the microseconds. The value has these
  microseconds and the days. -/
  daySecond : ∀ l i, l.kind = .daySecond i → ∀ v, value l = .ok v ↔
    i.PrecisionInRange ∧ ∃ part micros : Int64, part.toInt = towardZero i.exactPart ∧
      micros.toInt = i.seconds.toInt * 1000000 + part.toInt ∧ v = .interval ⟨0, i.days, micros⟩
  /-- The microseconds are off by less than one, and exact up to a precision of six digits. -/
  abs_sub_lt : ∀ l i, l.kind = .daySecond i → ∀ interval, value l = .ok (.interval interval) →
    |(interval.micros.toInt : ℚ) - i.exactMicros| < 1 ∧
      ((∀ p ∈ i.precision, p.toInt ≤ 6) → (interval.micros.toInt : ℚ) = i.exactMicros)
  /-- A precision out of range is refused, whatever the other fields are. -/
  refused : ∀ l i p, l.kind = .daySecond i → i.precision = some p →
    ¬ (0 ≤ p.toInt ∧ p.toInt ≤ 9) → value l = .error (.input (.intervalPrecision p))

/-- Interval literals are read as the numbers that they are, and nothing wraps around. -/
theorem readsIntervals : ReadsIntervals Literal.value where
  yearMonth l years months hl v := by
    simp only [Literal.value, hl, yearMonthValue_eq_ok, int32?_eq_some_iff]
    refine exists_congr fun folded => exists_congr fun total => ?_
    constructor <;> rintro ⟨hfolded, htotal, rfl⟩ <;> exact ⟨by omega, by omega, rfl⟩
  daySecond l i hl v := by
    simp only [Literal.value, hl, DaySecond.value_eq_ok_iff]
  abs_sub_lt l i hl interval h := by
    simp only [Literal.value, hl, DaySecond.value_eq_ok_iff] at h
    obtain ⟨-, part, micros, hpart, hmicros, hinterval⟩ := h
    cases hinterval
    exact DaySecond.abs_micros_sub_exactMicros hpart hmicros
  refused l i p hl hp h := by
    simp only [Literal.value, hl, DaySecond.value_of_not_inRange hp h]

end Plan

end PlanImport
