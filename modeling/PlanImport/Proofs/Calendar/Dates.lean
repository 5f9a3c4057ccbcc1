import Mathlib.Algebra.Order.Group.Int
import Mathlib.Data.Int.SuccPred
import Mathlib.Tactic.IntervalCases
import PlanImport.Calendar.Date

/-!
# Dates of the Gregorian calendar

Counting days from 1970-01-01 gives the dates of the proleptic Gregorian calendar one after the
other, each of them once. A date is found from the first of March of its year, so that the leap day
is the last day of a year, and of every four, hundred and four hundred years the last year.
-/

namespace PlanImport.Calendar

/-! ### The calendar -/

/-- Whether a year has a leap day: every fourth has one, of the centuries only every fourth. -/
def IsLeapYear (year : Int) : Prop := 4 ∣ year ∧ (100 ∣ year → 400 ∣ year)

instance (year : Int) : Decidable (IsLeapYear year) :=
  inferInstanceAs (Decidable (4 ∣ year ∧ (100 ∣ year → 400 ∣ year)))

def daysOfYear (year : Int) : Int := if IsLeapYear year then 366 else 365

def daysOfMonth (year month : Int) : Int :=
  if month = 2 then if IsLeapYear year then 29 else 28
  else if month = 4 ∨ month = 6 ∨ month = 9 ∨ month = 11 then 30
  else 31

/-- The sum of the values of all numbers from a first one on that are less than a last one. -/
def sumBetween (f : Int → Int) (first last : Int) : Int :=
  ((List.range (last - first).toNat).map fun n : Nat => f (first + n)).sum

section SumBetween

variable (f : Int → Int) {first last : Int}

lemma sumBetween_of_le (h : last ≤ first) : sumBetween f first last = 0 := by
  rw [sumBetween, Int.toNat_eq_zero.mpr (by omega)]
  rfl

lemma sumBetween_add_one (h : first ≤ last) :
    sumBetween f first (last + 1) = sumBetween f first last + f last := by
  have hcount : (last + 1 - first).toNat = (last - first).toNat + 1 := by omega
  have hlast : first + ((last - first).toNat : Int) = last := by omega
  rw [sumBetween, hcount, List.range_succ, List.map_append, List.sum_append, List.map_singleton,
    List.sum_singleton, hlast]
  rfl

/-- The sum begins with the value of the first number. -/
lemma sumBetween_eq_add (h : first < last) :
    sumBetween f first last = f first + sumBetween f (first + 1) last := by
  have hcount : (last - first).toNat = (last - (first + 1)).toNat + 1 := by omega
  have hshift : ((fun n : Nat => f (first + n)) ∘ Nat.succ) = fun n : Nat => f (first + 1 + n) := by
    funext n
    rw [Function.comp_apply, Int.natCast_succ, Int.add_right_comm, Int.add_assoc]
  rw [sumBetween, hcount, List.range_succ_eq_map, List.map_cons, List.map_map, hshift,
    List.sum_cons, Int.natCast_zero, Int.add_zero]
  rfl

end SumBetween

namespace Date

/-- Whether there is such a day. -/
structure IsValid (d : Date) : Prop where
  one_le_month : 1 ≤ d.month
  month_le : d.month ≤ 12
  one_le_day : 1 ≤ d.day
  day_le : d.day ≤ daysOfMonth d.year d.month

def next (d : Date) : Date :=
  if d.day < daysOfMonth d.year d.month then { d with day := d.day + 1 }
  else if d.month < 12 then { d with month := d.month + 1, day := 1 }
  else ⟨d.year + 1, 1, 1⟩

def Before (d e : Date) : Prop :=
  d.year < e.year ∨ d.year = e.year ∧ (d.month < e.month ∨ d.month = e.month ∧ d.day < e.day)

/-- The number of days from 1970-01-01 to a date, counted year by year, then month by month and
then day by day. -/
def dayNumber (d : Date) : Int :=
  sumBetween daysOfYear 1970 d.year - sumBetween daysOfYear d.year 1970 +
    sumBetween (daysOfMonth d.year) 1 d.month + (d.day - 1)

variable {d : Date}

instance : IsTrans Date Before where
  trans d e f := by
    unfold Before
    omega

lemma IsValid.before_next (h : d.IsValid) : d.Before d.next := by
  have := h.month_le
  unfold Before next
  split_ifs <;> dsimp only <;> omega

/-! ### Years from March -/

/-- The number of days of the months from March on that are before a month. Months are counted from
March, from 0 on. -/
def beforeMonth (month : Int) : Int := (153 * month + 2) / 5

/-- The month that a day of the year is in, both counted from March. -/
def monthOfDay (day : Int) : Int := (5 * day + 2) / 153

/-- The date so many days after the first of March of a year. -/
def ofMarch (year day : Int) : Date :=
  let month := if monthOfDay day < 10 then monthOfDay day + 3 else monthOfDay day - 9
  { year := year + if month ≤ 2 then 1 else 0
    month := month
    day := day - beforeMonth (monthOfDay day) + 1 }

/-- The number of days from the first of March of the year 0 to the first of March of a year. -/
def beforeMarch (year : Int) : Int := 365 * year + year / 4 - year / 100 + year / 400

section OfMarch

variable {year day : Int}

lemma le_daysOfYear (year : Int) : 365 ≤ daysOfYear year := by
  unfold daysOfYear
  split_ifs <;> omega

lemma daysOfYear_le (year : Int) : daysOfYear year ≤ 366 := by
  unfold daysOfYear
  split_ifs <;> omega

/-- From March to March the days are those of the year with the February between them. -/
lemma beforeMarch_add_one (year : Int) :
    beforeMarch (year + 1) = beforeMarch year + daysOfYear (year + 1) := by
  unfold beforeMarch daysOfYear IsLeapYear
  split_ifs <;> omega

lemma beforeMarch_le_beforeMarch {m n : Int} (h : m ≤ n) : beforeMarch m ≤ beforeMarch n := by
  unfold beforeMarch
  omega

lemma monthOfDay_eq_iff {month : Int} :
    monthOfDay day = month ↔ beforeMonth month ≤ day ∧ day < beforeMonth (month + 1) := by
  unfold monthOfDay beforeMonth
  omega

lemma monthOfDay_bounds (hlow : 0 ≤ day) (hhigh : day < daysOfYear (year + 1)) :
    0 ≤ monthOfDay day ∧ monthOfDay day ≤ 11 := by
  have := daysOfYear_le (year + 1)
  unfold monthOfDay
  omega

/-- A month from March on ends where the next one starts, and February with the year. -/
lemma daysOfMonth_ofMarch (hlow : 0 ≤ day) (hhigh : day < daysOfYear (year + 1)) :
    daysOfMonth (ofMarch year day).year (ofMarch year day).month =
      min (beforeMonth (monthOfDay day + 1)) (daysOfYear (year + 1)) -
        beforeMonth (monthOfDay day) := by
  obtain ⟨hfirst, hlast⟩ := monthOfDay_bounds hlow hhigh
  have hyear := le_daysOfYear (year + 1)
  unfold ofMarch
  generalize monthOfDay day = month at hfirst hlast ⊢
  -- February is the last month from March on and the only one whose length depends on the year.
  by_cases hfebruary : month = 11
  · subst hfebruary
    by_cases hleap : IsLeapYear (year + 1) <;> simp [beforeMonth, daysOfMonth, daysOfYear, hleap]
  · interval_cases month <;> simp [beforeMonth, daysOfMonth] at * <;> omega

/-- A year begins with March here and a leap day is its last one, so each month has as many days as
in the calendar. -/
lemma isValid_ofMarch (hlow : 0 ≤ day) (hhigh : day < daysOfYear (year + 1)) :
    (ofMarch year day).IsValid := by
  obtain ⟨hfirst, hlast⟩ := monthOfDay_bounds hlow hhigh
  obtain ⟨hfrom, hto⟩ := monthOfDay_eq_iff.mp (Eq.refl (monthOfDay day))
  have hday : (ofMarch year day).day = day - beforeMonth (monthOfDay day) + 1 := rfl
  have hmonth : 1 ≤ (ofMarch year day).month ∧ (ofMarch year day).month ≤ 12 := by
    unfold ofMarch
    dsimp only
    split_ifs <;> omega
  refine ⟨hmonth.1, hmonth.2, by omega, ?_⟩
  rw [daysOfMonth_ofMarch hlow hhigh, hday]
  omega

/-- Within a year from March on, the next day is in the same month or is the first one of the next
month. -/
lemma next_ofMarch_of_lt (hlow : 0 ≤ day) (hhigh : day + 1 < daysOfYear (year + 1)) :
    (ofMarch year day).next = ofMarch year (day + 1) := by
  have hyear := daysOfYear_le (year + 1)
  have hin : day < daysOfYear (year + 1) := by omega
  obtain ⟨hfirst, hlast⟩ := monthOfDay_bounds hlow hin
  obtain ⟨hfrom, hto⟩ := monthOfDay_eq_iff.mp (Eq.refl (monthOfDay day))
  have hday : (ofMarch year day).day = day - beforeMonth (monthOfDay day) + 1 := rfl
  unfold next
  rw [daysOfMonth_ofMarch hlow hin, hday]
  by_cases hmonth : day + 1 < beforeMonth (monthOfDay day + 1)
  · have hsame : monthOfDay (day + 1) = monthOfDay day :=
      monthOfDay_eq_iff.mpr ⟨by omega, hmonth⟩
    rw [if_pos (by omega)]
    simp only [ofMarch, hsame, mk.injEq, true_and]
    omega
  · -- The next day is the first of the next month.
    have hnext : monthOfDay (day + 1) = monthOfDay day + 1 :=
      monthOfDay_eq_iff.mpr (by unfold beforeMonth at *; omega)
    have hlast : monthOfDay day ≤ 10 := by
      unfold beforeMonth at *
      omega
    rw [if_neg (by omega)]
    simp only [ofMarch, hnext]
    split_ifs <;> simp only [mk.injEq, true_and] <;> omega

/-- The last day of a year from March on is the last one of February. -/
lemma next_ofMarch_of_eq (h : day + 1 = daysOfYear (year + 1)) :
    (ofMarch year day).next = ofMarch (year + 1) 0 := by
  have hlow := le_daysOfYear (year + 1)
  have hhigh := daysOfYear_le (year + 1)
  have hfebruary : monthOfDay day = 11 := by
    unfold monthOfDay
    omega
  have hday : (ofMarch year day).day = day - beforeMonth 11 + 1 := by rw [← hfebruary]; rfl
  unfold next
  rw [daysOfMonth_ofMarch (by omega) (by omega), hday, hfebruary, if_neg (by omega)]
  simp only [ofMarch, hfebruary]
  simp [monthOfDay, beforeMonth]

/-- Every day is in one year from March only. -/
lemma eq_of_beforeMarch_add_eq {year' day' : Int} (hlow : 0 ≤ day)
    (hhigh : day < daysOfYear (year + 1)) (hlow' : 0 ≤ day')
    (hhigh' : day' < daysOfYear (year' + 1))
    (h : beforeMarch year + day = beforeMarch year' + day') : year = year' ∧ day = day' := by
  have hend := beforeMarch_add_one year
  have hend' := beforeMarch_add_one year'
  -- A later year would begin only after all days of the earlier one.
  have hle : year' ≤ year := by
    by_contra hlt
    have := beforeMarch_le_beforeMarch (show year + 1 ≤ year' by omega)
    omega
  have hge : year ≤ year' := by
    by_contra hlt
    have := beforeMarch_le_beforeMarch (show year' + 1 ≤ year by omega)
    omega
  obtain rfl : year = year' := le_antisymm hge hle
  exact ⟨rfl, by omega⟩

end OfMarch

/-! ### Days of an era -/

/-- The year of a day of an era: the leap days before it are taken off, and the rest is in years of
365 days. -/
def yearOfEra (dayOfEra : Int) : Int :=
  (dayOfEra - dayOfEra / 1460 + dayOfEra / 36524 - dayOfEra / 146096) / 365

/-- The day of its year, from March on, for a day of an era. -/
def dayOfYear (dayOfEra : Int) : Int :=
  dayOfEra - (365 * yearOfEra dayOfEra + yearOfEra dayOfEra / 4 - yearOfEra dayOfEra / 100)

lemma ofDays_eq (days : Int) :
    ofDays days = ofMarch (yearOfEra ((days + 719468) % 146097) + (days + 719468) / 146097 * 400)
      (dayOfYear ((days + 719468) % 146097)) := rfl

section DayOfEra

variable {n : Int} (hlow : 0 ≤ n) (hhigh : n < 146097)

include hlow hhigh

/-- A day of an era is in one of four centuries, of 25 groups of four years and of four years. The
last year of a group has a leap day, but in the last group only of the last century. -/
lemma exists_dayOfEra :
    ∃ century fours year day, 0 ≤ century ∧ century ≤ 3 ∧ 0 ≤ fours ∧ fours ≤ 24 ∧ 0 ≤ year ∧
      year ≤ 3 ∧ 0 ≤ day ∧ (day < 365 ∨ day = 365 ∧ year = 3 ∧ (fours = 24 → century = 3)) ∧
      n = 36524 * century + 1461 * fours + 365 * year + day := by
  let century := min (n / 36524) 3
  let fours := min ((n - 36524 * century) / 1461) 24
  let year := min ((n - 36524 * century - 1461 * fours) / 365) 3
  exact ⟨century, fours, year, n - 36524 * century - 1461 * fours - 365 * year, by omega⟩

/-- A day of an era is taken apart into centuries, groups of four years, years and days. Only the
last year of a group of four can have a day more, and of the last groups of the centuries only the
one in the last century. -/
lemma exists_yearOfEra_eq :
    ∃ century fours year, 0 ≤ century ∧ century ≤ 3 ∧ 0 ≤ fours ∧ fours ≤ 24 ∧ 0 ≤ year ∧
      year ≤ 3 ∧ 0 ≤ dayOfYear n ∧
      (dayOfYear n < 365 ∨ dayOfYear n = 365 ∧ year = 3 ∧ (fours = 24 → century = 3)) ∧
      n = 36524 * century + 1461 * fours + 365 * year + dayOfYear n ∧
      yearOfEra n = 100 * century + 4 * fours + year := by
  obtain ⟨century, fours, year, day, hcentury₀, hcentury, hfours₀, hfours, hyear₀, hyear, hday₀,
    hday, hn⟩ := exists_dayOfEra hlow hhigh
  -- Only the last day of the era is counted to a fifth century, and it is taken off again.
  have hcenturies : n / 36524 - n / 146096 = century := by
    by_cases hlast : n = 146096
    · omega
    · have hnone : n / 146096 = 0 := by omega
      have hdiv : n / 36524 = century := by omega
      omega
  -- The leap day at the end of four years may be counted already in the last of them.
  have hleap : n / 1460 = 25 * century + fours ∧ day < 365 ∨
      n / 1460 = 25 * century + fours + 1 ∧ 0 < day := by
    by_cases hearly : 24 * century + fours + 365 * year + day < 1460
    · left
      omega
    · right
      omega
  have hyearOfEra : yearOfEra n = 100 * century + 4 * fours + year := by
    unfold yearOfEra
    omega
  have hdayOfYear : dayOfYear n = day := by
    have hquarter : (100 * century + 4 * fours + year) / 4 = 25 * century + fours := by omega
    have hhundredth : (100 * century + 4 * fours + year) / 100 = century := by omega
    unfold dayOfYear
    rw [hyearOfEra, hquarter, hhundredth]
    omega
  rw [hdayOfYear]
  exact ⟨century, fours, year, hcentury₀, hcentury, hfours₀, hfours, hyear₀, hyear, hday₀, hday, hn,
    hyearOfEra⟩

lemma yearOfEra_bounds : 0 ≤ yearOfEra n ∧ yearOfEra n < 400 := by
  obtain ⟨century, fours, year, _, _, _, _, _, _, _, _, _, hyearOfEra⟩ :=
    exists_yearOfEra_eq hlow hhigh
  omega

/-- A year from March on is as long as the calendar year in which it ends. -/
lemma dayOfYear_bounds (era : Int) :
    0 ≤ dayOfYear n ∧ dayOfYear n < daysOfYear (yearOfEra n + era * 400 + 1) := by
  obtain ⟨century, fours, year, _, _, _, _, _, _, hday₀, hday, _, hyearOfEra⟩ :=
    exists_yearOfEra_eq hlow hhigh
  refine ⟨hday₀, ?_⟩
  rw [hyearOfEra]
  unfold daysOfYear IsLeapYear
  split_ifs <;> omega

/-- The days before its year and those of its year up to it make up the day of the era. -/
lemma beforeMarch_yearOfEra (era : Int) :
    beforeMarch (yearOfEra n + era * 400) + dayOfYear n = 146097 * era + n := by
  obtain ⟨century, fours, year, _, _, _, _, _, _, _, _, hn, hyearOfEra⟩ :=
    exists_yearOfEra_eq hlow hhigh
  have hquarter : (yearOfEra n + era * 400) / 4 = 25 * century + fours + 100 * era := by omega
  have hhundredth : (yearOfEra n + era * 400) / 100 = century + 4 * era := by omega
  have hera : (yearOfEra n + era * 400) / 400 = era := by omega
  unfold beforeMarch
  rw [hquarter, hhundredth, hera]
  omega

end DayOfEra

/-- The date of a day is found from the year from March that it is in. -/
lemma exists_ofMarch_eq_ofDays (days : Int) :
    ∃ year day, 0 ≤ day ∧ day < daysOfYear (year + 1) ∧ days + 719468 = beforeMarch year + day ∧
      ofDays days = ofMarch year day := by
  have hlow := Int.emod_nonneg (days + 719468) (by decide : (146097 : Int) ≠ 0)
  have hhigh := Int.emod_lt_of_pos (days + 719468) (by decide : (0 : Int) < 146097)
  obtain ⟨hday₀, hday⟩ := dayOfYear_bounds hlow hhigh ((days + 719468) / 146097)
  refine ⟨_, _, hday₀, hday, ?_, ofDays_eq days⟩
  rw [beforeMarch_yearOfEra hlow hhigh, Int.mul_ediv_add_emod]

/-- Whatever year from March and day of it a day number comes down to, they are its date. -/
lemma ofDays_eq_ofMarch {days year day : Int} (hlow : 0 ≤ day)
    (hhigh : day < daysOfYear (year + 1)) (h : days + 719468 = beforeMarch year + day) :
    ofDays days = ofMarch year day := by
  obtain ⟨year', day', hlow', hhigh', heq, hdate⟩ := exists_ofMarch_eq_ofDays days
  obtain ⟨rfl, rfl⟩ := eq_of_beforeMarch_add_eq hlow hhigh hlow' hhigh' (h.symm.trans heq)
  exact hdate

lemma isValid_ofDays (days : Int) : (ofDays days).IsValid := by
  obtain ⟨year, day, hlow, hhigh, -, hdate⟩ := exists_ofMarch_eq_ofDays days
  rw [hdate]
  exact isValid_ofMarch hlow hhigh

/-- The date of the next day is the next date. -/
lemma ofDays_add_one (days : Int) : ofDays (days + 1) = (ofDays days).next := by
  obtain ⟨year, day, hlow, hhigh, h, hdate⟩ := exists_ofMarch_eq_ofDays days
  rw [hdate]
  by_cases hend : day + 1 < daysOfYear (year + 1)
  · rw [next_ofMarch_of_lt hlow hend]
    exact ofDays_eq_ofMarch (by omega) hend (by omega)
  · have hnext := le_daysOfYear (year + 1 + 1)
    have hmarch := beforeMarch_add_one year
    rw [next_ofMarch_of_eq (by omega)]
    exact ofDays_eq_ofMarch le_rfl (by omega) (by omega)

lemma before_ofDays {m n : Int} (h : m < n) : (ofDays m).Before (ofDays n) :=
  Int.rel_of_forall_rel_succ_of_lt Before
    (fun days => by
      rw [ofDays_add_one]
      exact (isValid_ofDays days).before_next) h

/-- Every day of the calendar has a number. -/
lemma IsValid.exists_ofDays_eq (h : d.IsValid) : ∃ days, ofDays days = d := by
  obtain ⟨year, month, day⟩ := d
  obtain ⟨hmonth₀, hmonth, hday₀, hday⟩ := h
  dsimp only at hmonth₀ hmonth hday₀ hday
  -- January and February belong to the year from March before.
  let year' := if month ≤ 2 then year - 1 else year
  let month' := if month ≤ 2 then month + 9 else month - 3
  have hbounds : 0 ≤ beforeMonth month' + (day - 1) ∧
      beforeMonth month' + (day - 1) < daysOfYear (year' + 1) ∧
      beforeMonth month' + (day - 1) < beforeMonth (month' + 1) := by
    unfold daysOfMonth at hday
    unfold daysOfYear beforeMonth year' month'
    interval_cases month <;> simp at hday ⊢ <;> split_ifs at * <;> omega
  have hmonthOfDay : monthOfDay (beforeMonth month' + (day - 1)) = month' :=
    monthOfDay_eq_iff.mpr ⟨by omega, hbounds.2.2⟩
  refine ⟨beforeMarch year' + (beforeMonth month' + (day - 1)) - 719468, ?_⟩
  rw [ofDays_eq_ofMarch hbounds.1 hbounds.2.1 (by omega)]
  unfold ofMarch
  rw [hmonthOfDay]
  unfold year' month'
  split_ifs <;> simp only [mk.injEq] <;> omega

/-! ### Counting days -/

/-- The next year adds its own days, be it before 1970 or after it. -/
lemma sum_daysOfYear_add_one (year : Int) :
    sumBetween daysOfYear 1970 (year + 1) - sumBetween daysOfYear (year + 1) 1970 =
      sumBetween daysOfYear 1970 year - sumBetween daysOfYear year 1970 + daysOfYear year := by
  -- From 1970 on the first sum grows by the year, before it the second one shrinks by it.
  by_cases h : 1970 ≤ year
  · rw [sumBetween_add_one _ h, sumBetween_of_le _ h,
      sumBetween_of_le _ (show 1970 ≤ year + 1 by omega)]
    omega
  · rw [sumBetween_eq_add _ (show year < 1970 by omega),
      sumBetween_of_le _ (show year ≤ 1970 by omega),
      sumBetween_of_le _ (show year + 1 ≤ 1970 by omega)]
    omega

/-- The months of a year have all days of the year. -/
lemma sum_daysOfMonth (year : Int) :
    sumBetween (daysOfMonth year) 1 12 + daysOfMonth year 12 = daysOfYear year := by
  have hmonths : sumBetween (daysOfMonth year) 1 12 =
      ((List.range 11).map fun n : Nat => daysOfMonth year (1 + n)).sum := rfl
  rw [hmonths]
  unfold daysOfYear
  by_cases hleap : IsLeapYear year <;> simp [daysOfMonth, hleap, List.range_succ]

/-- The next date is one day later, at the end of a month and at the end of a year as well. -/
lemma IsValid.dayNumber_next (h : d.IsValid) : d.next.dayNumber = d.dayNumber + 1 := by
  obtain ⟨hmonth₀, hmonth, hday₀, hday⟩ := h
  unfold next
  by_cases hlast : d.day < daysOfMonth d.year d.month
  · rw [if_pos hlast]
    simp only [dayNumber]
    omega
  · by_cases hdecember : d.month < 12
    · rw [if_neg hlast, if_pos hdecember]
      simp only [dayNumber]
      rw [sumBetween_add_one _ hmonth₀]
      omega
    · -- After the last of December all months of the year are counted as the year.
      have hsum := sum_daysOfMonth d.year
      rw [if_neg hlast, if_neg hdecember]
      simp only [dayNumber]
      rw [sum_daysOfYear_add_one, sumBetween_of_le _ le_rfl]
      have htwelve : d.month = 12 := by omega
      rw [htwelve] at hlast hday ⊢
      omega

/-- Counting the days of the calendar gives back the number of the day. -/
lemma dayNumber_ofDays (days : Int) : (ofDays days).dayNumber = days := by
  induction days with
  | zero => decide
  | succ n ih =>
    rw [ofDays_add_one, (isValid_ofDays _).dayNumber_next, ih]
  | pred n ih =>
    -- Backwards the step is taken from the earlier day, whose number follows from the later one.
    have hnext := ofDays_add_one (-n - 1)
    rw [show -(n : Int) - 1 + 1 = -n by omega] at hnext
    rw [hnext, (isValid_ofDays _).dayNumber_next] at ih
    omega

lemma IsValid.ofDays_dayNumber (h : d.IsValid) : ofDays d.dayNumber = d := by
  obtain ⟨days, rfl⟩ := h.exists_ofDays_eq
  rw [dayNumber_ofDays]

/-! ### Days in 64 bits -/

end Date

/-- The result of an operation in 64 bits. There is none if it overflows. -/
def inInt64 (n : Int) : Option Int := if -2 ^ 63 ≤ n ∧ n < 2 ^ 63 then some n else none

lemma inInt64_eq_some {n : Int} (hlow : -2 ^ 63 ≤ n) (hhigh : n < 2 ^ 63) : inInt64 n = some n :=
  if_pos ⟨hlow, hhigh⟩

lemma inInt64_bind {α : Type} {n : Int} (hlow : -2 ^ 63 ≤ n) (hhigh : n < 2 ^ 63)
    (f : Int → Option α) : (inInt64 n).bind f = f n := by
  rw [inInt64_eq_some hlow hhigh, Option.bind_some]

lemma inInt64_eq_none {n : Int} (h : 2 ^ 63 ≤ n) : inInt64 n = none :=
  if_neg fun hn => absurd hn.2 (not_lt.mpr h)

namespace Date

def yearOfEra64? (dayOfEra : Int) : Option Int := do
  let n ← inInt64 (dayOfEra - (← inInt64 (dayOfEra / 1460)))
  let n ← inInt64 (n + (← inInt64 (dayOfEra / 36524)))
  let n ← inInt64 (n - (← inInt64 (dayOfEra / 146096)))
  inInt64 (n / 365)

def dayOfYear64? (dayOfEra yearOfEra : Int) : Option Int := do
  let n ← inInt64 ((← inInt64 (365 * yearOfEra)) + (← inInt64 (yearOfEra / 4)))
  let n ← inInt64 (n - (← inInt64 (yearOfEra / 100)))
  inInt64 (dayOfEra - n)

/-- The date of a day of a year from March on. -/
def ofMarch64? (year dayOfYear : Int) : Option Date := do
  let n ← inInt64 ((← inInt64 (5 * dayOfYear)) + 2)
  let monthFromMarch ← inInt64 (n / 153)
  let n ← inInt64 ((← inInt64 (153 * monthFromMarch)) + 2)
  let n ← inInt64 (dayOfYear - (← inInt64 (n / 5)))
  let day ← inInt64 (n + 1)
  let month ← inInt64 (if monthFromMarch < 10 then monthFromMarch + 3 else monthFromMarch - 9)
  let year ← inInt64 (year + if month ≤ 2 then 1 else 0)
  return ⟨year, month, day⟩

/-- The date of a day in 64 bits: each operation is checked on its own, in the order in which
the date is found. -/
def ofDays64? (days : Int) : Option Date := do
  let z ← inInt64 (days + 719468)
  let era ← inInt64 (z / 146097)
  let dayOfEra ← inInt64 (z % 146097)
  let yearOfEra ← yearOfEra64? dayOfEra
  let dayOfYear ← dayOfYear64? dayOfEra yearOfEra
  let year ← inInt64 (yearOfEra + (← inInt64 (era * 400)))
  ofMarch64? year dayOfYear

section DayOfEra

variable {n : Int} (hlow : 0 ≤ n) (hhigh : n < 146097)

include hlow hhigh

lemma yearOfEra64?_eq : yearOfEra64? n = some (yearOfEra n) := by
  unfold yearOfEra64? yearOfEra
  rw [Option.bind_eq_bind]
  simp (disch := omega) only [inInt64_bind]
  exact inInt64_eq_some (by omega) (by omega)

lemma dayOfYear64?_eq : dayOfYear64? n (yearOfEra n) = some (dayOfYear n) := by
  obtain ⟨hyear₀, hyear⟩ := yearOfEra_bounds hlow hhigh
  unfold dayOfYear64? dayOfYear
  rw [Option.bind_eq_bind]
  simp (disch := omega) only [inInt64_bind]
  exact inInt64_eq_some (by omega) (by omega)

end DayOfEra

lemma ofMarch64?_eq {year day : Int} (hlow : 0 ≤ day) (hhigh : day ≤ 366)
    (hyear₀ : -2 ^ 62 ≤ year) (hyear : year < 2 ^ 62) :
    ofMarch64? year day = some (ofMarch year day) := by
  unfold ofMarch64? ofMarch monthOfDay beforeMonth
  rw [Option.bind_eq_bind]
  simp (disch := omega) only [inInt64_bind, Option.pure_def]

/-- Once a day is counted from the first of March of the year 0, nothing overflows any more. -/
lemma ofDays64?_eq_some {days : Int} (hmin : -2 ^ 63 ≤ days) (hmax : days + 719468 < 2 ^ 63) :
    ofDays64? days = some (ofDays days) := by
  have hlow := Int.emod_nonneg (days + 719468) (by decide : (146097 : Int) ≠ 0)
  have hhigh := Int.emod_lt_of_pos (days + 719468) (by decide : (0 : Int) < 146097)
  have hera : -2 ^ 53 ≤ (days + 719468) / 146097 ∧ (days + 719468) / 146097 < 2 ^ 53 := by omega
  unfold ofDays64?
  -- The era and the day in it are only used within their bounds from here on.
  rw [ofDays_eq, Option.bind_eq_bind, inInt64_bind (by omega) hmax]
  generalize (days + 719468) % 146097 = n at hlow hhigh ⊢
  generalize (days + 719468) / 146097 = era at hera ⊢
  obtain ⟨hyear₀, hyear⟩ := yearOfEra_bounds hlow hhigh
  obtain ⟨hday₀, hday⟩ := dayOfYear_bounds hlow hhigh era
  have hdays := daysOfYear_le (yearOfEra n + era * 400 + 1)
  simp (disch := omega) only [inInt64_bind, yearOfEra64?_eq hlow hhigh,
    dayOfYear64?_eq hlow hhigh, Option.bind_some]
  exact ofMarch64?_eq hday₀ (by omega) (by omega) (by omega)

lemma ofDays64?_eq_none {days : Int} (h : 2 ^ 63 ≤ days + 719468) : ofDays64? days = none := by
  unfold ofDays64?
  rw [inInt64_eq_none h]
  rfl

/-! ### The calendar of days -/

/-- Whether dates are the days of the proleptic Gregorian calendar, counted from 1970-01-01. -/
structure IsGregorian (ofDays : Int → Date) : Prop where
  /-- There is each of these days. -/
  isValid : ∀ days, (ofDays days).IsValid
  /-- The count starts at 1970-01-01. -/
  zero : ofDays 0 = ⟨1970, 1, 1⟩
  /-- One day later is the next day of the calendar. -/
  add_one : ∀ days, ofDays (days + 1) = (ofDays days).next
  /-- Later days have later dates. -/
  before : ∀ m n, m < n → (ofDays m).Before (ofDays n)
  /-- Different days have different dates. -/
  injective : Function.Injective ofDays
  /-- Counting the days to a date gives its number back. -/
  dayNumber_ofDays : ∀ days, (ofDays days).dayNumber = days
  /-- Each day of the calendar is the date of its number. -/
  ofDays_dayNumber : ∀ d : Date, d.IsValid → ofDays d.dayNumber = d

/-- Days are given the dates of the Gregorian calendar. In 64 bits they get these dates too, unless
the day itself is less than 719468 days before the end of the range, where there is no result. -/
theorem isGregorian_ofDays :
    IsGregorian ofDays ∧ ∀ days : Int64, ofDays64? days.toInt =
      if days.toInt + 719468 < 2 ^ 63 then some (ofDays days.toInt) else none := by
  refine ⟨⟨isValid_ofDays, rfl, ofDays_add_one, fun m n => before_ofDays, fun m n heq => ?_,
    dayNumber_ofDays, fun d hd => hd.ofDays_dayNumber⟩, fun days => ?_⟩
  · have hnumber := congrArg dayNumber heq
    rwa [dayNumber_ofDays, dayNumber_ofDays] at hnumber
  · split_ifs with hmax
    · exact ofDays64?_eq_some days.le_toInt hmax
    · exact ofDays64?_eq_none (not_lt.mp hmax)

/-- The last leap day before a year 1, and the last day before the year 0. -/
example : ofDays (-719469) = ⟨0, 2, 29⟩ ∧ ofDays (-719529) = ⟨-1, 12, 31⟩ := by decide

end Date

end PlanImport.Calendar
