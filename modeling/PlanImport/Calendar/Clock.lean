import PlanImport.Calendar.Date

/-!
# Clock times

Times in microseconds. A time of day is written as hours, minutes and seconds with a fraction
of six digits when it is not a whole second; a point in time is its date and its time of day.
-/

namespace PlanImport.Calendar

def microsPerSecond : Int := 1000000

def microsPerDay : Int := 86400 * microsPerSecond

/-- Seconds and microseconds on the clock. The fields below the hours take the sign of the
seconds. -/
def clockFields (seconds fraction : Int) : List Char :=
  Text.padded 2 (seconds.tdiv 3600) ++ ':' :: Text.padded 2 ((seconds.tdiv 60).tmod 60) ++
    ':' :: Text.padded 2 (seconds.tmod 60) ++
    if fraction = 0 then [] else '.' :: Text.padded 6 fraction

/-- A time of day. The whole seconds are rounded down, so the fraction is never negative. -/
def clockChars (micros : Int) : List Char :=
  clockFields (micros / microsPerSecond) (micros % microsPerSecond)

/-- A point in time, counted from the beginning of 1970-01-01. -/
def timestampChars (micros : Int) : List Char :=
  (Date.ofDays (micros / microsPerDay)).chars ++ ' ' :: clockChars (micros % microsPerDay)

end PlanImport.Calendar
