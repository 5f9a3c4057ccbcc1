import PlanImport.Engine.Value
import PlanImport.Proofs.Calendar.Clock
import PlanImport.Proofs.Calendar.Dates

/-!
# Texts of dates and of points in time

The text of a date is read back as its date, and the text of a point in time as its date and its
time of day, which are together the microseconds since the beginning of 1970-01-01. So different
days and different points in time have different texts.
-/

namespace PlanImport

namespace Calendar

open Text

/-! ### Dates -/

namespace Date

/-- Read a date: month and day have two digits each, and the year is all that is before them. -/
def read? (cs : List Char) : Option Date :=
  match cs.drop (cs.length - 6) with
  | ['-', m₁, m₂, '-', d₁, d₂] => do
    let year ← readInt? (cs.take (cs.length - 6))
    let month ← readNat? [m₁, m₂]
    let day ← readNat? [d₁, d₂]
    return ⟨year, month, day⟩
  | _ => none

variable {d : Date}

lemma IsValid.day_le_thirtyOne (h : d.IsValid) : d.day ≤ 31 := by
  have hday := h.day_le
  unfold daysOfMonth at hday
  split_ifs at hday <;> omega

/-- A date is read back from its text. -/
lemma IsValid.read?_chars (h : d.IsValid) : read? d.chars = some d := by
  obtain ⟨month, hmonth⟩ := Int.eq_ofNat_of_zero_le (Int.le_trans (by decide) h.one_le_month)
  obtain ⟨day, hday⟩ := Int.eq_ofNat_of_zero_le (Int.le_trans (by decide) h.one_le_day)
  have hmonth₁ : month < 100 := by
    have := h.month_le
    omega
  have hday₁ : day < 100 := by
    have := h.day_le_thirtyOne
    omega
  have hchars : d.chars = padded 4 d.year ++
      ['-', (month / 10 % 10).digitChar, (month % 10).digitChar,
        '-', (day / 10 % 10).digitChar, (day % 10).digitChar] := by
    rw [chars, hmonth, hday, padded_eq_columns hmonth₁, padded_eq_columns hday₁, columns_two,
      columns_two, List.append_assoc]
    rfl
  have hlength : d.chars.length - 6 = (padded 4 d.year).length := by
    rw [hchars, List.length_append]
    rfl
  unfold read?
  rw [hlength, hchars, List.drop_left, List.take_left]
  simp only [readInt?_padded, readNat?_columns_two hmonth₁, readNat?_columns_two hday₁,
    Option.bind_eq_bind, Option.bind_some, Option.pure_def, ← hmonth, ← hday]

lemma read?_chars_ofDays (days : Int) : read? (ofDays days).chars = some (ofDays days) :=
  (isValid_ofDays days).read?_chars

lemma blank_not_mem_chars (d : Date) : ' ' ∉ d.chars := by
  have hpadded : ∀ width n, ' ' ∉ padded width n := fun _ _ h => ne_blank_of_mem_padded h rfl
  simp [chars, hpadded]

end Date

/-! ### Points in time -/

/-- Read a point in time: a date and a time of day after a blank. -/
def readTimestamp? (cs : List Char) : Option Int :=
  match cs.splitOn ' ' with
  | [date, clock] => do
    let date ← Date.read? date
    let clock ← Clock.read? clock
    return date.dayNumber * microsPerDay + clock.total
  | _ => none

def timeOfDay (micros : Int) : Clock := .ofTotal (micros % microsPerDay).toNat

lemma microsPerDay_eq : microsPerDay = 86400000000 := rfl

lemma toNat_emod_microsPerDay (micros : Int) :
    ((micros % microsPerDay).toNat : Int) = micros % microsPerDay :=
  Int.toNat_of_nonneg (Int.emod_nonneg micros (by decide))

lemma timestampChars_eq (micros : Int) : timestampChars micros =
    (Date.ofDays (micros / microsPerDay)).chars ++ ' ' :: (timeOfDay micros).chars := by
  rw [timestampChars, timeOfDay, ← Clock.clockChars_eq, toNat_emod_microsPerDay]

lemma isValid_timeOfDay (micros : Int) : (timeOfDay micros).IsValid := Clock.isValid_ofTotal _

lemma total_timeOfDay (micros : Int) :
    micros / microsPerDay * microsPerDay + (timeOfDay micros).total = micros := by
  rw [timeOfDay, Clock.total_ofTotal, toNat_emod_microsPerDay]
  exact Int.ediv_mul_add_emod micros microsPerDay

lemma hours_timeOfDay_lt (micros : Int) : (timeOfDay micros).hours < 24 := by
  have hlt := Int.emod_lt_of_pos micros (by decide : 0 < microsPerDay)
  have hnonneg := Int.emod_nonneg micros (by decide : microsPerDay ≠ 0)
  unfold timeOfDay Clock.ofTotal
  rw [microsPerDay_eq] at hlt hnonneg ⊢
  dsimp only
  omega

lemma micros_timeOfDay_eq_zero_iff (micros : Int) :
    (timeOfDay micros).micros = 0 ↔ microsPerSecond ∣ micros := by
  have htotal := toNat_emod_microsPerDay micros
  rw [timeOfDay, Clock.micros_ofTotal_eq_zero_iff]
  rw [microsPerDay_eq] at htotal ⊢
  rw [show microsPerSecond = 1000000 from rfl]
  omega

/-- A point in time is read back from its text. -/
lemma readTimestamp?_timestampChars (micros : Int) :
    readTimestamp? (timestampChars micros) = some micros := by
  have hsplit : (timestampChars micros).splitOn ' ' =
      [(Date.ofDays (micros / microsPerDay)).chars, (timeOfDay micros).chars] := by
    have hchars : timestampChars micros = [' '].intercalate
        [(Date.ofDays (micros / microsPerDay)).chars, (timeOfDay micros).chars] := by
      simp [timestampChars_eq, List.intercalate]
    rw [hchars, List.splitOn_intercalate ' ' (by
      simp [Date.blank_not_mem_chars, Clock.blank_not_mem_chars]) (by simp)]
  unfold readTimestamp?
  rw [hsplit]
  simp only [Date.read?_chars_ofDays, (isValid_timeOfDay micros).read?_chars, Option.bind_eq_bind,
    Option.bind_some, Option.pure_def, Date.dayNumber_ofDays, total_timeOfDay]

/-! ### In 64 bits -/

/-- The text of a time of day, found in 64 bits: each operation is checked on its own. -/
def clockChars64? (micros : Int) : Option (List Char) := do
  let seconds ← inInt64 (micros / microsPerSecond)
  let fraction ← inInt64 (micros % microsPerSecond)
  let hours ← inInt64 (seconds.tdiv 3600)
  let minutes ← inInt64 ((← inInt64 (seconds.tdiv 60)).tmod 60)
  let seconds ← inInt64 (seconds.tmod 60)
  return padded 2 hours ++ ':' :: padded 2 minutes ++ ':' :: padded 2 seconds ++
    if fraction = 0 then [] else '.' :: padded 6 fraction

/-- The text of a point in time, found in 64 bits. -/
def timestampChars64? (micros : Int) : Option (List Char) := do
  let date ← Date.ofDays64? (← inInt64 (micros / microsPerDay))
  let clock ← clockChars64? (← inInt64 (micros % microsPerDay))
  return date.chars ++ ' ' :: clock

/-- A time of day is far from the bounds of 64 bits. -/
lemma clockChars64?_eq {micros : Int} (hlow : 0 ≤ micros) (hhigh : micros < 2 ^ 62) :
    clockChars64? micros = some (clockChars micros) := by
  have hseconds : 0 ≤ micros / 1000000 ∧ micros / 1000000 < 2 ^ 62 := by omega
  have hfraction : 0 ≤ micros % 1000000 ∧ micros % 1000000 < 1000000 := by omega
  unfold clockChars64? clockChars clockFields
  rw [Option.bind_eq_bind, show microsPerSecond = 1000000 from rfl]
  generalize micros / 1000000 = seconds at hseconds ⊢
  generalize micros % 1000000 = fraction at hfraction ⊢
  simp (disch := omega) only [Int.tdiv_eq_ediv_of_nonneg, Int.tmod_eq_emod_of_nonneg, inInt64_bind,
    Option.pure_def]

/-- Nothing overflows on the way to the text of a point in time. -/
lemma timestampChars64?_eq {micros : Int} (hlow : -2 ^ 63 ≤ micros) (hhigh : micros < 2 ^ 63) :
    timestampChars64? micros = some (timestampChars micros) := by
  have hdays : -2 ^ 47 ≤ micros / 86400000000 ∧ micros / 86400000000 < 2 ^ 47 := by omega
  have hmicros : 0 ≤ micros % 86400000000 ∧ micros % 86400000000 < 2 ^ 62 := by omega
  unfold timestampChars64? timestampChars
  rw [microsPerDay_eq]
  generalize micros / 86400000000 = days at hdays ⊢
  generalize micros % 86400000000 = rest at hmicros ⊢
  simp (disch := omega) only [Option.bind_eq_bind, Option.bind_some, inInt64_bind,
    Date.ofDays64?_eq_some, clockChars64?_eq, Option.pure_def]

end Calendar

namespace Engine

open Calendar

/-- Whether dates have the texts that they should have. -/
structure WritesDates (text : Int32 → String) : Prop where
  /-- The text is the date of the day in the Gregorian calendar. -/
  form : ∀ days, text days = .ofList (Date.ofDays days.toInt).chars
  /-- Counting the days to the date that is read from the text gives the day back. -/
  readBack : ∀ days, (Date.read? (text days).toList).map Date.dayNumber = some days.toInt
  /-- Different days have different texts. -/
  injective : Function.Injective text

/-- Whether points in time have the texts that they should have. -/
structure WritesTimestamps (text : Int64 → String) : Prop where
  /-- The text is the date of the day, rounded down, and the time of this day. The time has a
  fraction exactly if it is not a whole second, and it is what the day leaves. -/
  form : ∀ micros, ∃ time : Clock,
    text micros =
      .ofList ((Date.ofDays (micros.toInt / microsPerDay)).chars ++ ' ' :: time.chars) ∧
    time.IsValid ∧ time.hours < 24 ∧ (time.micros = 0 ↔ microsPerSecond ∣ micros.toInt) ∧
    micros.toInt / microsPerDay * microsPerDay + time.total = micros.toInt
  /-- The date and the time that are read from the text are the microseconds. -/
  readBack : ∀ micros, readTimestamp? (text micros).toList = some micros.toInt
  /-- Different points in time have different texts. -/
  injective : Function.Injective text

/-- Dates are read back from their texts, so different days have different texts. -/
lemma writesDates : WritesDates fun days => (Value.date days).text := by
  have hread : ∀ days : Int32,
      (Date.read? (Value.date days).text.toList).map Date.dayNumber = some days.toInt := fun days => by
    rw [Value.text, String.toList_ofList, Date.read?_chars_ofDays, Option.map_some,
      Date.dayNumber_ofDays]
  refine ⟨fun days => by rw [Value.text], hread, fun a b h => ?_⟩
  have hdays := hread a
  rw [h, hread b, Option.some.injEq] at hdays
  exact (Int32.toInt_inj.mp hdays).symm

/-- Dates and points in time are written exactly, the earliest and the latest as all others, and
nothing overflows on the way. -/
theorem writesTimestamps :
    WritesTimestamps (fun micros => (Value.timestamp micros).text) ∧
      (∀ micros : Int64, timestampChars64? micros.toInt = some (timestampChars micros.toInt)) ∧
      WritesDates (fun days => (Value.date days).text) ∧
      ∀ days : Int32, Date.ofDays64? days.toInt = some (Date.ofDays days.toInt) := by
  have hread : ∀ micros : Int64,
      readTimestamp? (Value.timestamp micros).text.toList = some micros.toInt := fun micros => by
    rw [Value.text, String.toList_ofList, readTimestamp?_timestampChars]
  refine ⟨⟨fun micros => ⟨timeOfDay micros.toInt, ?_, isValid_timeOfDay _, hours_timeOfDay_lt _,
    micros_timeOfDay_eq_zero_iff _, total_timeOfDay _⟩, hread, fun a b h => ?_⟩,
    fun micros => timestampChars64?_eq micros.le_toInt micros.toInt_lt, writesDates, fun days => ?_⟩
  · rw [Value.text, timestampChars_eq]
  · have hmicros := hread a
    rw [h, hread b, Option.some.injEq] at hmicros
    exact (Int64.toInt_inj.mp hmicros).symm
  · have hlow := days.le_toInt
    have hhigh := days.toInt_lt
    exact Date.ofDays64?_eq_some (by omega) (by omega)

/-- The first point in time and the last one. -/
example : timestampChars (-2 ^ 63) = "-290308-12-21 19:59:05.224192".toList ∧
    timestampChars (2 ^ 63 - 1) = "294247-01-10 04:00:54.775807".toList := by
  decide +kernel

end Engine

end PlanImport
