import PlanImport.Lowering.Constant
import PlanImport.Proofs.Lowering.Run

/-!
# When a literal has a value

For the literals that may be refused, what it takes for them to have a value, and which value that
is.
-/

namespace PlanImport.Plan

open Engine

lemma uInt8_ofNat_toNat_eq_iff {n : Int} (hlow : 0 ≤ n) (hhigh : n < 256) {b : UInt8} :
    UInt8.ofNat n.toNat = b ↔ (b.toNat : Int) = n := by
  rw [← UInt8.toNat_inj, UInt8.toNat_ofNat_of_lt' (by have : UInt8.size = 256 := rfl; omega)]
  omega

lemma width?_eq_some_iff {precision : Int32} {width : UInt8} :
    width? precision = some width ↔
      (1 ≤ precision.toInt ∧ precision.toInt ≤ 38) ∧ (width.toNat : Int) = precision.toInt := by
  unfold width?
  rw [Option.ite_none_right_eq_some, show (maxDecimalWidth.toNat : Int) = 38 from rfl]
  refine and_congr_right fun h => ?_
  rw [Option.some.injEq, uInt8_ofNat_toNat_eq_iff (by omega) (by omega)]

/-- A scale is between zero and the width, and is stored as it is. -/
lemma scale?_eq_some_iff {width scale : UInt8} {n : Int32} :
    scale? width n = some scale ↔
      (0 ≤ n.toInt ∧ n.toInt ≤ width.toNat) ∧ (scale.toNat : Int) = n.toInt := by
  have hwidth := width.toNat_lt
  unfold scale?
  rw [Option.ite_none_right_eq_some]
  refine and_congr_right fun h => ?_
  rw [Option.some.injEq, uInt8_ofNat_toNat_eq_iff (by omega) (by omega)]

/-- A decimal has a value if its bytes, its width and its scale are those of one, and its number
fits in the integer type of its width. -/
lemma DecimalLiteral.value_eq_ok {d : DecimalLiteral} {v : Value} :
    d.value = .ok v ↔ ∃ width scale stored, d.bytes.length = 16 ∧ width? d.precision = some width ∧
      scale? width d.scale = some scale ∧
      SizedInt.ofWidth? (Int128.ofBytes d.bytes) width = some stored ∧
      v = .decimal stored width scale := by
  unfold DecimalLiteral.value
  by_cases hlength : d.bytes.length = 16
  · simp only [hlength, ne_eq, not_true, if_false, true_and]
    cases width? d.precision with
    | none => simp
    | some width =>
      cases hs : scale? width d.scale with
      | none => simp [hs]
      | some scale =>
        cases hv : SizedInt.ofWidth? (Int128.ofBytes d.bytes) width with
        | none => simp [hs, hv]
        | some stored => simp [hs, hv, pure, Except.pure, eq_comm]
  · simp [hlength, bind_eq_ok]

/-- An integer is in 32 bits exactly if one of them has its value. -/
lemma int32?_eq_some_iff {n : Int} {m : Int32} : int32? n = some m ↔ m.toInt = n := by
  have hlow := m.le_toInt
  have hhigh := m.toInt_lt
  unfold int32?
  rw [Option.ite_none_right_eq_some, Option.some.injEq]
  constructor
  · rintro ⟨hn, rfl⟩
    exact Int32.toInt_ofInt_of_le hn.1 hn.2
  · rintro rfl
    exact ⟨⟨hlow, hhigh⟩, Int32.ofInt_toInt m⟩

lemma int64?_eq_some_iff {n : Int} {m : Int64} : int64? n = some m ↔ m.toInt = n := by
  have hlow := m.le_toInt
  have hhigh := m.toInt_lt
  unfold int64?
  rw [Option.ite_none_right_eq_some, Option.some.injEq]
  constructor
  · rintro ⟨hn, rfl⟩
    exact Int64.toInt_ofInt_of_le hn.1 hn.2
  · rintro rfl
    exact ⟨⟨hlow, hhigh⟩, Int64.ofInt_toInt m⟩

/-- The years are checked as months before the months are added. -/
lemma yearMonthValue_eq_ok {years months : Int32} {v : Value} :
    yearMonthValue years months = .ok v ↔ ∃ folded total, int32? (years.toInt * 12) = some folded ∧
      int32? (folded.toInt + months.toInt) = some total ∧ v = .interval ⟨total, 0, 0⟩ := by
  unfold yearMonthValue
  cases int32? (years.toInt * 12) with
  | none => simp
  | some folded =>
    cases hm : int32? (folded.toInt + months.toInt) with
    | none => simp [hm]
    | some total => simp [hm, eq_comm]

/-- The microseconds of the part of a second. -/
def DaySecond.part (i : DaySecond) : Except Refusal Int64 :=
  match i.precision with
  | some p => microsOf i.subseconds p
  | none => .ok i.microseconds

/-- The seconds and their part are added in 64 bits; the days stand by themselves. -/
lemma DaySecond.value_eq_ok {i : DaySecond} {v : Value} :
    i.value = .ok v ↔ ∃ part micros, i.part = .ok part ∧
      int64? (i.seconds.toInt * 1000000 + part.toInt) = some micros ∧
      v = .interval ⟨0, i.days, micros⟩ := by
  have hvalue : i.value = i.part >>= fun part =>
      (int64? (i.seconds.toInt * 1000000 + part.toInt)).elim
        (.error (.input (.secondsOverflow i.seconds)))
        fun micros => .ok (.interval ⟨0, i.days, micros⟩) := by
    unfold DaySecond.value DaySecond.part
    cases i.precision with
    | none | some p =>
      apply bind_congr
      intro part
      beta_reduce
      cases int64? (i.seconds.toInt * 1000000 + part.toInt) <;> rfl
  rw [hvalue, bind_eq_ok]
  refine exists_congr fun part => ?_
  cases int64? (i.seconds.toInt * 1000000 + part.toInt) with
  | none => simp
  | some micros => simp [eq_comm]

end PlanImport.Plan
