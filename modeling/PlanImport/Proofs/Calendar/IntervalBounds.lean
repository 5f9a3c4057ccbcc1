import PlanImport.Proofs.Calendar.IntervalLiterals
import PlanImport.Proofs.Decimal.Literal

/-!
# Interval literals that are too large

The months of an interval are its years in months and its months, and its microseconds are those
of its seconds and those of the part of a second. A literal is refused if the sum is too large. It
is also refused if the number that is converted is too large on its own, although the other one may
bring the sum back.
-/

namespace PlanImport.Plan

open Engine

lemma exists_int32_iff {n : Int} : (∃ m : Int32, m.toInt = n) ↔ FitsBits 32 n := by
  constructor
  · rintro ⟨m, rfl⟩
    exact ⟨m.le_toInt, m.toInt_lt⟩
  · intro h
    exact ⟨.ofInt n, Int32.toInt_ofInt_of_le h.1 h.2⟩

lemma exists_int64_iff {n : Int} : (∃ m : Int64, m.toInt = n) ↔ FitsBits 64 n := by
  constructor
  · rintro ⟨m, rfl⟩
    exact ⟨m.le_toInt, m.toInt_lt⟩
  · intro h
    exact ⟨.ofInt n, Int64.toInt_ofInt_of_le h.1 h.2⟩

/-- What a literal of an interval adds up to and how many bits there are for it. The first number
is the one of the two that is converted on its own: years in months, or the part of a second in
microseconds. -/
inductive AddsUpTo : LiteralKind → Nat → Int → Int → Prop
  | yearMonth (years months : Int32) :
    AddsUpTo (.yearMonth years months) 32 (12 * years.toInt) (12 * years.toInt + months.toInt)
  | daySecond (i : DaySecond) (h : i.PrecisionInRange) :
    AddsUpTo (.daySecond i) 64 (towardZero i.exactPart)
      (i.seconds.toInt * 1000000 + towardZero i.exactPart)

section Literals

variable {l : Literal} {bits : Nat} {converted total : Int}

/-- A literal has a value if both the number that is converted and the sum fit. -/
lemma exists_value_iff (h : AddsUpTo l.kind bits converted total) :
    (∃ v, l.value = .ok v) ↔ FitsBits bits converted ∧ FitsBits bits total := by
  obtain ⟨kind, nullable⟩ := l
  cases h with
  | yearMonth years months =>
    simp only [Literal.value, yearMonthValue_eq_ok, int32?_eq_some_iff]
    rw [← exists_int32_iff, ← exists_int32_iff]
    constructor
    · rintro ⟨v, folded, total, hfolded, htotal, -⟩
      exact ⟨⟨folded, by omega⟩, ⟨total, by omega⟩⟩
    · rintro ⟨⟨folded, hfolded⟩, ⟨total, htotal⟩⟩
      exact ⟨_, folded, total, by omega, by omega, rfl⟩
  | daySecond i hprecision =>
    simp only [Literal.value, DaySecond.value_eq_ok_iff]
    rw [← exists_int64_iff, ← exists_int64_iff]
    constructor
    · rintro ⟨v, -, part, micros, hpart, hmicros, -⟩
      exact ⟨⟨part, hpart⟩, ⟨micros, hpart ▸ hmicros⟩⟩
    · rintro ⟨⟨part, hpart⟩, ⟨micros, hmicros⟩⟩
      exact ⟨_, hprecision, part, micros, hpart, hpart ▸ hmicros, rfl⟩

lemma exists_refusal_iff (h : AddsUpTo l.kind bits converted total) :
    (∃ e, l.value = .error e) ↔ ¬ (FitsBits bits converted ∧ FitsBits bits total) := by
  rw [← exists_value_iff h]
  cases l.value with
  | ok v => simp
  | error e => simp

end Literals

/-- Whether a literal of an interval is refused exactly if what it adds up to is too large. -/
def RefusedOnOverflow (l : Literal) : Prop :=
  ∀ bits converted total, AddsUpTo l.kind bits converted total →
    ((∃ e, l.value = .error e) ↔ ¬ FitsBits bits total)

/-- A literal of an interval is refused if what is converted or what it adds up to is too large. So
the sum alone decides exactly if it is never small enough where the number that is converted is
not. -/
theorem refusedOnOverflow_iff (l : Literal) :
    (∀ bits converted total, AddsUpTo l.kind bits converted total →
      ((∃ e, l.value = .error e) ↔ ¬ (FitsBits bits converted ∧ FitsBits bits total))) ∧
    (RefusedOnOverflow l ↔ ∀ bits converted total, AddsUpTo l.kind bits converted total →
      FitsBits bits total → FitsBits bits converted) := by
  refine ⟨fun bits converted total h => exists_refusal_iff h, ?_⟩
  refine forall_congr' fun bits => forall_congr' fun converted => forall_congr' fun total =>
    forall_congr' fun h => ?_
  rw [exists_refusal_iff h]
  tauto

lemma not_refusedOnOverflow {l : Literal} {bits : Nat} {converted total : Int}
    (h : AddsUpTo l.kind bits converted total) (hconverted : ¬ FitsBits bits converted)
    (htotal : FitsBits bits total) : ¬ RefusedOnOverflow l := fun hrefused =>
  (hrefused bits converted total h).mp ((exists_refusal_iff h).mpr fun hfits => hconverted hfits.1)
    htotal

/-- Up to a precision of six digits nothing is cut off. -/
lemma towardZero_exactPart {i : DaySecond} {p : Int32} (hp : i.precision = some p)
    (h : p.toInt ≤ 6) : towardZero i.exactPart =
      i.subseconds.toInt * (Nat.pow 10 (6 - p.toInt).toNat : ℕ) := by
  rw [DaySecond.exactPart, hp]
  dsimp only
  rw [mul_zpow_of_le _ h, towardZero_intCast]

/-- The years are more months than there may be, but five months less are not. The part of a second
is more microseconds than there may be, but a second less is not. -/
theorem not_refusedOnOverflow_converted :
    (AddsUpTo (.yearMonth 178956971 (-5)) 32 2147483652 2147483647 ∧
      ¬ RefusedOnOverflow ⟨.yearMonth 178956971 (-5), false⟩) ∧
    (AddsUpTo (.daySecond ⟨0, -1, 0, some 0, 9223372036855⟩) 64
        9223372036855000000 9223372036854000000 ∧
      ¬ RefusedOnOverflow ⟨.daySecond ⟨0, -1, 0, some 0, 9223372036855⟩, false⟩) := by
  have hyears : AddsUpTo (.yearMonth 178956971 (-5)) 32 2147483652 2147483647 :=
    .yearMonth 178956971 (-5)
  have hseconds : AddsUpTo (.daySecond ⟨0, -1, 0, some 0, 9223372036855⟩) 64
      9223372036855000000 9223372036854000000 := by
    have h := AddsUpTo.daySecond ⟨0, -1, 0, some 0, 9223372036855⟩ (by rintro p ⟨⟩; decide)
    rwa [towardZero_exactPart rfl (by decide)] at h
  exact ⟨⟨hyears, not_refusedOnOverflow hyears (fun h => absurd h.2 (by decide))
      ⟨by decide, by decide⟩⟩,
    ⟨hseconds, not_refusedOnOverflow hseconds (fun h => absurd h.2 (by decide))
      ⟨by decide, by decide⟩⟩⟩

end PlanImport.Plan
