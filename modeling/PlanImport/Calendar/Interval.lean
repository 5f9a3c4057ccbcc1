import PlanImport.Calendar.Clock

/-!
# Intervals of time

An interval has months, days and microseconds that are not converted into each other. Its text
lists the parts that are not zero; the clock part is written also when all others are absent.
-/

namespace PlanImport.Calendar

structure Interval where
  /-- Whole months. -/
  months : Int32
  /-- Whole days. -/
  days : Int32
  /-- Microseconds. -/
  micros : Int64
  deriving DecidableEq, Repr

/-- An amount with its unit, in the plural unless the amount is one. A zero amount has no
text. -/
def amountChars (amount : Int) (unit : List Char) : List (List Char) :=
  if amount = 0 then []
  else [Text.decimal amount ++ ' ' :: unit ++ if amount.natAbs = 1 then [] else ['s']]

/-- The clock part: a sign and the magnitude. The magnitude is taken in the same 64 bits, in
which the least number is its own magnitude. -/
def Interval.clockPart (micros : Int64) : List Char :=
  let magnitude := micros.abs.toInt
  (if micros < 0 then ['-'] else []) ++
    clockFields (magnitude.tdiv microsPerSecond) (magnitude.tmod microsPerSecond)

def Interval.parts (i : Interval) : List (List Char) :=
  let calendar :=
    amountChars (i.months.toInt.tdiv 12) "year".toList ++
    amountChars (i.months.toInt.tmod 12) "month".toList ++
    amountChars i.days.toInt "day".toList
  if i.micros ≠ 0 ∨ calendar.isEmpty then calendar ++ [Interval.clockPart i.micros] else calendar

/-- The parts of an interval between blanks. -/
def Interval.chars (i : Interval) : List Char := [' '].intercalate i.parts

end PlanImport.Calendar
