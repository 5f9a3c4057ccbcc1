import PlanImport.Text.Padded

/-!
# Civil dates

Dates of the proleptic Gregorian calendar, counted in days from 1970-01-01. The year is taken
to begin in March, so that the leap day is its last day; four hundred years, an era, have
146097 days.
-/

namespace PlanImport.Calendar

structure Date where
  /-- The year; the year before 1 is 0. -/
  year : Int
  /-- The month, from 1 to 12. -/
  month : Int
  /-- The day of the month, from 1. -/
  day : Int
  deriving DecidableEq, Repr

/-- The date a number of days after 1970-01-01. -/
def Date.ofDays (days : Int) : Date :=
  -- days since the first of March of the year 0
  let z := days + 719468
  let era := z / 146097
  let dayOfEra := z % 146097
  let yearOfEra := (dayOfEra - dayOfEra / 1460 + dayOfEra / 36524 - dayOfEra / 146096) / 365
  let dayOfYear := dayOfEra - (365 * yearOfEra + yearOfEra / 4 - yearOfEra / 100)
  -- months from March on have 153 days in every five
  let monthFromMarch := (5 * dayOfYear + 2) / 153
  let month := if monthFromMarch < 10 then monthFromMarch + 3 else monthFromMarch - 9
  { year := yearOfEra + era * 400 + if month ≤ 2 then 1 else 0
    month := month
    day := dayOfYear - (153 * monthFromMarch + 2) / 5 + 1 }

/-- Year, month and day between hyphens. -/
def Date.chars (d : Date) : List Char :=
  Text.padded 4 d.year ++ '-' :: Text.padded 2 d.month ++ '-' :: Text.padded 2 d.day

end PlanImport.Calendar
