import PlanImport.Calendar.Clock
import PlanImport.Proofs.Text.Columns

/-!
# Times on the clock

A number of microseconds is written as the hours, minutes, seconds and microseconds that it is made
of, and is read back from them.
-/

namespace PlanImport.Calendar

open Text

structure Clock where
  /-- Hours, as many as there are. -/
  hours : Nat
  /-- Minutes of the hour. -/
  minutes : Nat
  /-- Seconds of the minute. -/
  seconds : Nat
  /-- Microseconds of the second. -/
  micros : Nat
  deriving DecidableEq, Repr

namespace Clock

/-- Whether each part is less than one of the next greater ones. -/
structure IsValid (c : Clock) : Prop where
  minutes_lt : c.minutes < 60
  seconds_lt : c.seconds < 60
  micros_lt : c.micros < 1000000

def total (c : Clock) : Nat :=
  (c.hours * 3600 + c.minutes * 60 + c.seconds) * 1000000 + c.micros

/-- The time of so many microseconds. -/
def ofTotal (n : Nat) : Clock :=
  ⟨n / 3600000000, n / 60000000 % 60, n / 1000000 % 60, n % 1000000⟩

/-- At least two digits for the hours, two for the minutes and two for the seconds between colons,
and six digits after a point if it is not a whole second. -/
def chars (c : Clock) : List Char :=
  atLeast 2 c.hours ++ ':' :: (columns 2 c.minutes ++ ':' :: (columns 2 c.seconds ++
    if c.micros = 0 then [] else '.' :: columns 6 c.micros))

def readMicros? : List Char → Option Nat
  | [] => some 0
  | '.' :: cs => if cs.length = 6 then readNat? cs else none
  | _ => none

def read? (cs : List Char) : Option Clock :=
  match cs.dropWhile Char.isDigit with
  | ':' :: m₁ :: m₂ :: ':' :: s₁ :: s₂ :: rest => do
    let hours ← readNat? (cs.takeWhile Char.isDigit)
    let minutes ← readNat? [m₁, m₂]
    let seconds ← readNat? [s₁, s₂]
    let micros ← readMicros? rest
    return ⟨hours, minutes, seconds, micros⟩
  | _ => none

lemma isValid_ofTotal (n : Nat) : (ofTotal n).IsValid :=
  ⟨Nat.mod_lt _ (by decide), Nat.mod_lt _ (by decide), Nat.mod_lt _ (by decide)⟩

lemma total_ofTotal (n : Nat) : (ofTotal n).total = n := by
  unfold total ofTotal
  dsimp only
  omega

lemma micros_ofTotal_eq_zero_iff (n : Nat) : (ofTotal n).micros = 0 ↔ 1000000 ∣ n :=
  Nat.dvd_iff_mod_eq_zero.symm

lemma readMicros?_eq {n : Nat} (h : n < 1000000) :
    readMicros? (if n = 0 then [] else '.' :: columns 6 n) = some n := by
  split_ifs with hzero
  · rw [hzero]
    rfl
  · rw [readMicros?, if_pos (length_columns 6 n), readNat?_columns h]

/-- A time is read back from its text. -/
lemma IsValid.read?_chars {c : Clock} (h : c.IsValid) : read? c.chars = some c := by
  have hminutes := readNat?_columns_two (Nat.lt_trans h.minutes_lt (by decide))
  have hseconds := readNat?_columns_two (Nat.lt_trans h.seconds_lt (by decide))
  have hhours : ∀ d ∈ atLeast 2 c.hours, d.isDigit = true := fun _ => isDigit_of_mem_atLeast
  have hcolon : (':' : Char).isDigit = false := by decide
  unfold read? chars
  rw [List.takeWhile_append_of_pos hhours, List.dropWhile_append_of_pos hhours,
    List.takeWhile_cons_of_neg (by simp [hcolon]), List.dropWhile_cons_of_neg (by simp [hcolon]),
    List.append_nil, readNat?_atLeast, columns_two c.minutes, columns_two c.seconds]
  simp only [List.cons_append, List.nil_append, hminutes, hseconds, readMicros?_eq h.micros_lt,
    Option.bind_eq_bind, Option.bind_some, Option.pure_def]

lemma blank_not_mem_chars (c : Clock) : ' ' ∉ c.chars := by
  have hdigit : (' ' : Char).isDigit ≠ true := by decide
  have hatLeast : ∀ width n, ' ' ∉ atLeast width n := fun _ _ h => hdigit (isDigit_of_mem_atLeast h)
  have hcolumns : ∀ width n, ' ' ∉ columns width n := fun _ _ h => hdigit (isDigit_of_mem_columns h)
  unfold chars
  split_ifs <;> simp [hatLeast, hcolumns]

/-- Whole seconds and the microseconds after them are written as the time that they are. -/
lemma clockFields_eq (n : Nat) :
    clockFields (n / 1000000 : Nat) (n % 1000000 : Nat) = (ofTotal n).chars := by
  have hhours : ((n / 1000000 : Nat) : Int).tdiv 3600 = (n / 3600000000 : Nat) := by
    rw [show n / 3600000000 = n / 1000000 / 3600 by omega]
    exact (Int.ofNat_tdiv _ 3600).symm
  have hminutes : (((n / 1000000 : Nat) : Int).tdiv 60).tmod 60 = (n / 60000000 % 60 : Nat) := by
    rw [show n / 60000000 = n / 1000000 / 60 by omega]
    exact (congrArg (Int.tmod · 60) (Int.ofNat_tdiv _ 60).symm).trans (Int.ofNat_tmod _ 60).symm
  have hseconds : ((n / 1000000 : Nat) : Int).tmod 60 = (n / 1000000 % 60 : Nat) :=
    (Int.ofNat_tmod _ 60).symm
  have hcolumns : padded 6 (n % 1000000 : Nat) = columns 6 (n % 1000000) :=
    padded_eq_columns (Nat.mod_lt n (by decide : 0 < 1000000))
  have hmicros : (if ((n % 1000000 : Nat) : Int) = 0 then []
      else '.' :: padded 6 (n % 1000000 : Nat)) =
      if n % 1000000 = 0 then [] else '.' :: columns 6 (n % 1000000) := by
    rw [hcolumns]
    exact if_congr Int.natCast_eq_zero rfl rfl
  have hsixty : ∀ k, padded 2 (k % 60 : Nat) = columns 2 (k % 60) := fun k =>
    padded_eq_columns (Nat.lt_trans (Nat.mod_lt k (by decide)) (by decide : 60 < 100))
  unfold clockFields chars ofTotal
  rw [hhours, hminutes, hseconds, hmicros, padded_natCast, hsixty, hsixty]
  simp only [List.append_assoc, List.cons_append]

lemma clockChars_eq (n : Nat) : clockChars n = (ofTotal n).chars :=
  clockFields_eq n

end Clock

end PlanImport.Calendar
