import PlanImport.Engine.Value
import PlanImport.Proofs.Calendar.Clock

/-!
# Texts of intervals

The text of an interval lists years, months, days and a time with a sign, which stand for its
months, its days and its microseconds. The least number of microseconds is the only one without
such a text, since its magnitude is not a number of 64 bits.
-/

namespace PlanImport

namespace Calendar

open Text

/-! ### Amounts -/

/-- The ending of the unit of an amount, which is in the plural unless the amount is one or minus
one. -/
def ending (amount : Int) : List Char := if amount = 1 ∨ amount = -1 then [] else ['s']

/-- The words of an amount: the number and its unit. There are none for zero. -/
def amountWords (amount : Int) (unit : List Char) : List (List Char) :=
  if amount = 0 then [] else [decimal amount, unit ++ ending amount]

/-- Read the amount of a unit from the first two words, and give back the words after it. There is
none, and nothing is read, if they have another unit. -/
def readAmount? (unit : List Char) : List (List Char) → Option (Int × List (List Char))
  | number :: word :: words =>
    if word = unit ∨ word = unit ++ ['s'] then (readInt? number).map (·, words)
    else some (0, number :: word :: words)
  | words => some (0, words)

section Amounts

variable {unit : List Char} {rest : List (List Char)} (amount : Int)

lemma ending_mem : ending amount ∈ [[], ['s']] := by
  unfold ending
  split_ifs <;> decide

lemma amountWords_eq_nil_iff : amountWords amount unit = [] ↔ amount = 0 := by
  simp [amountWords]

/-- Zero is written as nothing, so it is read back only if what follows is no amount of the unit. -/
lemma readAmount?_amountWords (h : readAmount? unit rest = some (0, rest)) :
    readAmount? unit (amountWords amount unit ++ rest) = some (amount, rest) := by
  unfold amountWords
  split_ifs with hzero
  · rw [hzero, List.nil_append, h]
  · have hunit : unit ++ ending amount = unit ∨ unit ++ ending amount = unit ++ ['s'] := by
      simpa using ending_mem amount
    rw [List.cons_append, List.cons_append, List.nil_append, readAmount?, if_pos hunit, decimal,
      readInt?_padded, Option.map_some]

/-- The amount of another unit is not read. -/
lemma readAmount?_other {other : List Char}
    (hother : ∀ plural ∈ [[], ['s']], ¬ (other ++ plural = unit ∨ other ++ plural = unit ++ ['s']))
    (h : readAmount? unit rest = some (0, rest)) :
    readAmount? unit (amountWords amount other ++ rest) =
      some (0, amountWords amount other ++ rest) := by
  unfold amountWords
  split_ifs with hzero
  · exact h
  · rw [List.cons_append, List.cons_append, List.nil_append, readAmount?,
      if_neg (hother _ (ending_mem amount))]

/-- Words have no blanks, so a text is split into the words that it was made of. -/
lemma blank_not_mem_amountWords (hunit : ' ' ∉ unit) :
    ∀ word ∈ amountWords amount unit, ' ' ∉ word := by
  have hdecimal : ' ' ∉ decimal amount := fun h => ne_blank_of_mem_padded h rfl
  have hending : ' ' ∉ ending amount := by
    unfold ending
    split_ifs <;> decide
  unfold amountWords
  split_ifs <;> simp [hdecimal, hending, hunit]

/-- The two words of an amount with the blank between them. -/
lemma amountChars_eq : amountChars amount unit =
    if amount = 0 then [] else [[' '].intercalate (amountWords amount unit)] := by
  have hending : (if amount.natAbs = 1 then [] else ['s']) = ending amount :=
    if_congr Int.natAbs_eq_iff rfl rfl
  unfold amountChars amountWords
  rw [hending]
  split_ifs with hzero
  · rfl
  · simp [List.intercalate]

end Amounts

/-! ### Parts -/

/-- The parts of an interval with a time of a type. -/
structure IntervalParts (τ : Type) where
  years : Int
  months : Int
  days : Int
  time : Option τ

namespace IntervalParts

def map {σ τ : Type} (f : σ → τ) (p : IntervalParts σ) : IntervalParts τ :=
  { p with time := p.time.map f }

def words (p : IntervalParts (List Char)) : List (List Char) :=
  amountWords p.years "year".toList ++ (amountWords p.months "month".toList ++
    (amountWords p.days "day".toList ++ p.time.toList))

/-- The words of the parts between blanks. -/
def chars (p : IntervalParts (List Char)) : List Char := [' '].intercalate p.words

/-- Read the parts. -/
def read? (cs : List Char) : Option (IntervalParts (List Char)) := do
  let (years, words) ← readAmount? "year".toList (cs.splitOn ' ')
  let (months, words) ← readAmount? "month".toList words
  let (days, words) ← readAmount? "day".toList words
  match words with
  | [] => return ⟨years, months, days, none⟩
  | [time] => return ⟨years, months, days, some time⟩
  | _ => none

variable {p : IntervalParts (List Char)}

/-- Parts are read back from their text, if there are any. -/
lemma read?_chars (hne : p.words ≠ []) (htime : ∀ time ∈ p.time, ' ' ∉ time) :
    read? p.chars = some p := by
  have hblank : ∀ word ∈ p.words, ' ' ∉ word := by
    unfold words
    intro word hword
    simp only [List.mem_append, Option.mem_toList] at hword
    rcases hword with h | h | h | h
    · exact blank_not_mem_amountWords _ (by decide) word h
    · exact blank_not_mem_amountWords _ (by decide) word h
    · exact blank_not_mem_amountWords _ (by decide) word h
    · exact htime word h
  have hlast : ∀ unit, readAmount? unit p.time.toList = some (0, p.time.toList) := by
    intro unit
    cases p.time <;> rfl
  have hdays : readAmount? "day".toList (amountWords p.days "day".toList ++ p.time.toList) =
      some (p.days, p.time.toList) := readAmount?_amountWords _ (hlast _)
  have hmonths : readAmount? "month".toList
      (amountWords p.months "month".toList ++ (amountWords p.days "day".toList ++ p.time.toList)) =
      some (p.months, amountWords p.days "day".toList ++ p.time.toList) :=
    readAmount?_amountWords _ (readAmount?_other _ (by decide) (hlast _))
  have hyears : readAmount? "year".toList p.words =
      some (p.years, amountWords p.months "month".toList ++
        (amountWords p.days "day".toList ++ p.time.toList)) :=
    readAmount?_amountWords _ (readAmount?_other _ (by decide)
      (readAmount?_other _ (by decide) (hlast _)))
  unfold read? chars
  rw [List.splitOn_intercalate ' ' hblank hne, hyears]
  simp only [Option.bind_eq_bind, Option.bind_some, hmonths, hdays]
  obtain ⟨years, months, days, time⟩ := p
  cases time <;> rfl

end IntervalParts

/-! ### Times with a sign -/

/-- A time with a sign. -/
structure SignedClock where
  /-- Whether there is a minus in front. -/
  negative : Bool
  /-- The magnitude. -/
  clock : Clock

namespace SignedClock

/-- The sign and the magnitude. -/
def chars (c : SignedClock) : List Char := (if c.negative then ['-'] else []) ++ c.clock.chars

def micros (c : SignedClock) : Int := if c.negative then -(c.clock.total : Int) else c.clock.total

def ofMicros (n : Int) : SignedClock := ⟨decide (n < 0), .ofTotal n.natAbs⟩

/-- Read a time with a sign. -/
def read? : List Char → Option SignedClock
  | '-' :: cs => (Clock.read? cs).map (⟨true, ·⟩)
  | cs => (Clock.read? cs).map (⟨false, ·⟩)

lemma micros_ofMicros (n : Int) : (ofMicros n).micros = n := by
  unfold micros ofMicros
  rw [Clock.total_ofTotal]
  dsimp only
  split_ifs with h <;> simp only [decide_eq_true_eq] at h <;> omega

lemma clock_read?_minus (cs : List Char) : Clock.read? ('-' :: cs) = none := rfl

/-- A time is read back with its sign, as no clock begins with a minus. -/
lemma read?_chars {c : SignedClock} (h : c.clock.IsValid) : read? c.chars = some c := by
  obtain ⟨negative, clock⟩ := c
  have hread : Clock.read? clock.chars = some clock := h.read?_chars
  cases negative with
  | true => simp [read?, chars, hread]
  | false =>
    unfold read? chars
    split
    · next cs heq =>
      -- A time does not start with a minus.
      rw [if_neg Bool.false_ne_true, List.nil_append] at heq
      rw [heq, clock_read?_minus] at hread
      cases hread
    · rw [if_neg Bool.false_ne_true, List.nil_append, hread]
      rfl

lemma read?_chars_ofMicros (n : Int) : read? (ofMicros n).chars = some (ofMicros n) :=
  read?_chars (Clock.isValid_ofTotal _)

lemma blank_not_mem_chars (c : SignedClock) : ' ' ∉ c.chars := by
  unfold chars
  split_ifs <;> simp [Clock.blank_not_mem_chars]

end SignedClock

/-! ### Intervals -/

namespace Interval

def spelling (i : Interval) : IntervalParts (List Char) :=
  let years := i.months.toInt.tdiv 12
  let months := i.months.toInt.tmod 12
  let days := i.days.toInt
  { years, months, days
    time := if i.micros ≠ 0 ∨ years = 0 ∧ months = 0 ∧ days = 0 then some (clockPart i.micros)
      else none }

/-- The words of these parts make the text of the interval. -/
lemma chars_spelling (i : Interval) : i.spelling.chars = i.chars := by
  unfold IntervalParts.chars IntervalParts.words spelling chars parts
  rw [amountChars_eq, amountChars_eq, amountChars_eq]
  dsimp only
  generalize i.months.toInt.tdiv 12 = years
  generalize i.months.toInt.tmod 12 = months
  generalize i.days.toInt = days
  by_cases hyears : years = 0 <;> by_cases hmonths : months = 0 <;> by_cases hdays : days = 0 <;>
    by_cases hmicros : i.micros = 0 <;>
    simp [hyears, hmonths, hdays, hmicros, amountWords, List.intercalate]

lemma toInt_abs {micros : Int64} (h : micros ≠ Int64.minValue) :
    micros.abs.toInt = micros.toInt.natAbs := by
  rw [← Int64.toInt_toBitVec, Int64.toBitVec_abs, BitVec.toInt_abs_eq_natAbs_of_ne_intMin,
    Int64.toInt_toBitVec]
  rw [← Int64.toBitVec_minValue]
  exact fun heq => h (Int64.toBitVec_inj.mp heq)

/-- The clock part is the time with its sign, if the magnitude is a number of 64 bits. -/
lemma clockPart_eq {micros : Int64} (h : micros ≠ Int64.minValue) :
    clockPart micros = (SignedClock.ofMicros micros.toInt).chars := by
  have hnegative : micros < 0 ↔ micros.toInt < 0 := Int64.lt_iff_toInt_lt
  have hclock : clockFields ((micros.toInt.natAbs : Int).tdiv microsPerSecond)
      ((micros.toInt.natAbs : Int).tmod microsPerSecond) =
      (Clock.ofTotal micros.toInt.natAbs).chars := by
    rw [← Clock.clockFields_eq, Int.ofNat_tdiv, Int.ofNat_tmod]
    rfl
  unfold clockPart SignedClock.chars SignedClock.ofMicros
  rw [toInt_abs h]
  dsimp only
  rw [hclock]
  simp only [hnegative, decide_eq_true_eq]

/-- The least number of microseconds is written with the sign of a negative magnitude in each part
of the time that is not zero. -/
lemma clockPart_minValue :
    clockPart Int64.minValue = "--2562047788:00:-54.-775808".toList := by
  decide +kernel

/-- Read the microseconds of a time, if there is one. -/
def readMicros? : Option (List Char) → Option Int
  | none => some 0
  | some time => (SignedClock.read? time).map SignedClock.micros

lemma readMicros?_clockPart (micros : Int64) : readMicros? (some (clockPart micros)) =
    if micros = Int64.minValue then none else some micros.toInt := by
  split_ifs with h
  · rw [h, clockPart_minValue]
    decide +kernel
  · rw [readMicros?, clockPart_eq h, SignedClock.read?_chars_ofMicros, Option.map_some,
      SignedClock.micros_ofMicros]

/-- A time that is not written is zero. -/
lemma time_spelling (i : Interval) : i.spelling.time = none ∧ i.micros = 0 ∨
    i.spelling.time = some (clockPart i.micros) := by
  unfold spelling
  dsimp only
  split_ifs with h
  · exact Or.inr rfl
  · exact Or.inl ⟨rfl, not_not.mp (not_or.mp h).1⟩

lemma readMicros?_time (i : Interval) : readMicros? i.spelling.time =
    if i.micros = Int64.minValue then none else some i.micros.toInt := by
  rcases i.time_spelling with ⟨htime, hzero⟩ | htime
  · rw [htime, hzero, if_neg (by decide)]
    rfl
  · rw [htime, readMicros?_clockPart]

/-- An interval of nothing still has a time. -/
lemma words_spelling_ne_nil (i : Interval) : i.spelling.words ≠ [] := by
  unfold IntervalParts.words
  rw [ne_eq, List.append_eq_nil_iff, List.append_eq_nil_iff, List.append_eq_nil_iff,
    amountWords_eq_nil_iff, amountWords_eq_nil_iff, amountWords_eq_nil_iff]
  rintro ⟨hyears, hmonths, hdays, htime⟩
  -- Without any amount the time is written, also when it is zero.
  rw [spelling, if_pos (Or.inr ⟨hyears, hmonths, hdays⟩)] at htime
  cases htime

lemma blank_not_mem_clockPart (micros : Int64) : ' ' ∉ clockPart micros := by
  by_cases h : micros = Int64.minValue
  · rw [h, clockPart_minValue]
    decide
  · rw [clockPart_eq h]
    exact SignedClock.blank_not_mem_chars _

lemma months_spelling (i : Interval) :
    12 * i.spelling.years + i.spelling.months = i.months.toInt :=
  Int.mul_tdiv_add_tmod _ _

lemma read?_chars (i : Interval) : IntervalParts.read? i.chars = some i.spelling := by
  rw [← chars_spelling]
  refine IntervalParts.read?_chars (words_spelling_ne_nil i) ?_
  rintro time (hmem : i.spelling.time = some time)
  rcases i.time_spelling with ⟨htime, -⟩ | htime
  · rw [htime] at hmem
    cases hmem
  · rw [htime] at hmem
    cases hmem
    exact blank_not_mem_clockPart i.micros

end Interval

/-- Read the months, the days and the microseconds of an interval. -/
def readInterval? (cs : List Char) : Option (Int × Int × Int) :=
  (IntervalParts.read? cs).bind fun parts =>
    (Interval.readMicros? parts.time).map fun micros =>
      (12 * parts.years + parts.months, parts.days, micros)

/-- Whether parts are well formed and stand for an interval. -/
structure IntervalParts.StandsFor (p : IntervalParts SignedClock) (i : Interval) : Prop where
  /-- There is at least one part. -/
  ne_nil : (p.map SignedClock.chars).words ≠ []
  time_isValid : ∀ time ∈ p.time, time.clock.IsValid
  months_eq : 12 * p.years + p.months = i.months.toInt
  days_eq : p.days = i.days.toInt
  micros_eq : (p.time.map SignedClock.micros).getD 0 = i.micros.toInt

namespace IntervalParts.StandsFor

variable {p : IntervalParts SignedClock} {i : Interval}

/-- The parts that stand for an interval are read back from their text. -/
lemma readInterval?_chars (h : p.StandsFor i) : readInterval? (p.map SignedClock.chars).chars =
    some (i.months.toInt, i.days.toInt, i.micros.toInt) := by
  have htime : Interval.readMicros? (p.time.map SignedClock.chars) = some i.micros.toInt := by
    have hmicros := h.micros_eq
    rcases heq : p.time with _ | time
    · rw [heq] at hmicros
      exact congrArg some hmicros
    · rw [heq] at hmicros
      rw [Option.map_some, Interval.readMicros?, SignedClock.read?_chars (h.time_isValid time heq)]
      exact congrArg some hmicros
  have hread : IntervalParts.read? (p.map SignedClock.chars).chars =
      some (p.map SignedClock.chars) := by
    refine IntervalParts.read?_chars h.ne_nil fun time hmem => ?_
    obtain ⟨clock, -, rfl⟩ := Option.map_eq_some_iff.mp hmem
    exact clock.blank_not_mem_chars
  unfold readInterval?
  rw [hread, Option.bind_some]
  dsimp only [IntervalParts.map]
  rw [htime, Option.map_some, h.months_eq, h.days_eq]

end IntervalParts.StandsFor

namespace Interval

/-- The parts that an interval is written in, with the time that stands for its microseconds. -/
def signedSpelling (i : Interval) : IntervalParts SignedClock :=
  i.spelling.map fun _ => .ofMicros i.micros.toInt

variable {i : Interval} (h : i.micros ≠ Int64.minValue)

include h

/-- Unless the magnitude overflows, the time that is written is the one that stands for the
microseconds. -/
lemma map_signedSpelling : i.signedSpelling.map SignedClock.chars = i.spelling := by
  have htime : (i.spelling.time.map fun _ => SignedClock.ofMicros i.micros.toInt).map
      SignedClock.chars = i.spelling.time := by
    rcases i.time_spelling with ⟨htime, -⟩ | htime
    · rw [htime]
      rfl
    · rw [htime, clockPart_eq h]
      rfl
  unfold signedSpelling IntervalParts.map
  dsimp only
  rw [htime]

/-- The parts that are written are well formed and add up to those of the interval. -/
lemma standsFor_signedSpelling : i.signedSpelling.StandsFor i where
  ne_nil := i.map_signedSpelling h ▸ i.words_spelling_ne_nil
  time_isValid := by
    intro time hmem
    obtain ⟨_, -, rfl⟩ := Option.map_eq_some_iff.mp hmem
    exact Clock.isValid_ofTotal _
  months_eq := i.months_spelling
  days_eq := rfl
  micros_eq := by
    unfold signedSpelling IntervalParts.map
    dsimp only
    rcases i.time_spelling with ⟨htime, hzero⟩ | htime
    · rw [htime, hzero]
      rfl
    · rw [htime]
      exact SignedClock.micros_ofMicros _

end Interval

lemma readInterval?_chars (i : Interval) : readInterval? i.chars =
    if i.micros = Int64.minValue then none
    else some (i.months.toInt, i.days.toInt, i.micros.toInt) := by
  unfold readInterval?
  rw [i.read?_chars, Option.bind_some, i.readMicros?_time, i.months_spelling]
  split_ifs <;> rfl

/-- The least number of microseconds has a text that stands for nothing, but it is the only one with
such a text. -/
lemma Interval.eq_of_chars_eq {i j : Interval} (h : i.chars = j.chars) : i = j := by
  have hspelling : i.spelling = j.spelling := by
    have hread := i.read?_chars
    rw [h, j.read?_chars, Option.some.injEq] at hread
    exact hread.symm
  have hmonths := i.months_spelling
  have hdays : i.days.toInt = j.days.toInt := congrArg IntervalParts.days hspelling
  have hmicros := i.readMicros?_time
  rw [hspelling, j.months_spelling] at hmonths
  rw [hspelling, j.readMicros?_time] at hmicros
  have hmicros : i.micros = j.micros := by
    split_ifs at hmicros with hj hi hi
    · rw [hi, hj]
    · exact Int64.toInt_inj.mp (Option.some.inj hmicros).symm
  rw [Int32.toInt_inj] at hmonths hdays
  cases i
  cases j
  cases hmonths
  cases hdays
  cases hmicros
  rfl

end Calendar

namespace Engine

open Calendar

/-- Whether the text of an interval has well formed parts that stand for it. -/
def WritesInterval (i : Interval) : Prop :=
  ∃ p : IntervalParts SignedClock, p.StandsFor i ∧
    (Value.interval i).text = .ofList (p.map SignedClock.chars).chars

/-- The least number of microseconds has no time that stands for it. -/
lemma micros_ne_minValue_of_writesInterval {i : Interval} (h : WritesInterval i) :
    i.micros ≠ Int64.minValue := by
  obtain ⟨p, hp, htext⟩ := h
  rw [Value.text, String.ofList_inj] at htext
  have hread := hp.readInterval?_chars
  rw [← htext, readInterval?_chars] at hread
  intro hmin
  rw [if_pos hmin] at hread
  cases hread

lemma writesInterval_of_ne {i : Interval} (h : i.micros ≠ Int64.minValue) : WritesInterval i := by
  refine ⟨i.signedSpelling, i.standsFor_signedSpelling h, ?_⟩
  rw [Value.text, i.map_signedSpelling h, i.chars_spelling]

/-- An interval is written in well formed parts that stand for it exactly if its microseconds are
not the least number of 64 bits, whose text cannot be read. In any case no other interval has the
same text. -/
theorem writesInterval_iff (i : Interval) :
    (WritesInterval i ↔ i.micros ≠ Int64.minValue) ∧
      readInterval? (Value.interval i).text.toList =
        (if i.micros = Int64.minValue then none
        else some (i.months.toInt, i.days.toInt, i.micros.toInt)) ∧
      ∀ j, (Value.interval j).text = (Value.interval i).text → j = i := by
  refine ⟨⟨micros_ne_minValue_of_writesInterval, writesInterval_of_ne⟩, ?_, fun j h => ?_⟩
  · rw [Value.text, String.toList_ofList, readInterval?_chars]
  · rw [Value.text, Value.text, String.ofList_inj] at h
    exact Interval.eq_of_chars_eq h

/-- Two minus signs are in front of the text of the least number of microseconds. -/
theorem not_writesInterval_minValue :
    (Value.interval ⟨0, 0, Int64.minValue⟩).text = "--2562047788:00:-54.-775808" ∧
      ¬ WritesInterval ⟨0, 0, Int64.minValue⟩ :=
  ⟨by decide +kernel, fun h => micros_ne_minValue_of_writesInterval h rfl⟩

/-- Years and months have the same sign, the time has its own. -/
example : Interval.chars ⟨-25, 1, -1500000⟩ = "-2 years -1 month 1 day -00:00:01.500000".toList := by
  decide +kernel

end Engine

end PlanImport
