import Mathlib.Tactic.FieldSimp
import Mathlib.Tactic.Ring
import PlanImport.Engine.Decimal
import PlanImport.Proofs.Number.Digits

/-!
# The text of a decimal

The text of a decimal is a numeral with no digit to spare: as many digits after the point as the
scale says, and no zero in front of the point beyond the one that has to be there. The numeral that
is read back from it is the unscaled value over the power of ten of the scale, so the text tells all
decimals of one scale apart.
-/

namespace PlanImport

open Text

namespace Engine

structure DecimalNumeral where
  /-- Whether it starts with a minus. -/
  negative : Bool
  /-- The digits in front of the point. -/
  whole : List Char
  /-- The digits after the point, none if there is no point. -/
  part : List Char
  deriving DecidableEq, Repr

namespace DecimalNumeral

/-! ### Numerals -/

def chars (n : DecimalNumeral) : List Char :=
  (if n.negative then ['-'] else []) ++ n.whole ++ if n.part = [] then [] else '.' :: n.part

def value (n : DecimalNumeral) : ℚ :=
  let magnitude : ℚ := IntText.value n.whole + IntText.value n.part / 10 ^ n.part.length
  if n.negative then -magnitude else magnitude

/-- Read what follows the sign: digits, at least one, and then nothing else or a point and again
at least one digit. -/
def readUnsigned? (negative : Bool) (cs : List Char) : Option DecimalNumeral :=
  let whole := cs.takeWhile Char.isDigit
  if whole = [] then none
  else
    match cs.dropWhile Char.isDigit with
    | [] => some ⟨negative, whole, []⟩
    | '.' :: part =>
      if part ≠ [] ∧ part.all Char.isDigit = true then some ⟨negative, whole, part⟩ else none
    | _ => none

def read? : List Char → Option DecimalNumeral
  | '-' :: cs => readUnsigned? true cs
  | cs => readUnsigned? false cs

/-- Whether a numeral is made of digits, at least one of them in front of the point, and has no
zero there that could be left out. -/
structure Canonical (n : DecimalNumeral) : Prop where
  whole_ne_nil : n.whole ≠ []
  isDigit : ∀ c ∈ n.whole ++ n.part, c.isDigit = true
  whole_eq : n.whole.head? = some '0' → n.whole = ['0']

variable {n : DecimalNumeral}

/-- The point is the first character that is no digit, so it parts the digits where they were
parted. -/
lemma Canonical.readUnsigned?_eq_some (h : n.Canonical) :
    readUnsigned? n.negative (n.whole ++ if n.part = [] then [] else '.' :: n.part) = some n := by
  have hwhole : ∀ c ∈ n.whole, c.isDigit = true := fun c hc =>
    h.isDigit c (List.mem_append_left _ hc)
  have hpart : n.part.all Char.isDigit = true :=
    List.all_eq_true.mpr fun c hc => h.isDigit c (List.mem_append_right _ hc)
  have hpoint : ('.' : Char).isDigit = false := by decide
  unfold readUnsigned?
  rw [List.takeWhile_append_of_pos hwhole, List.dropWhile_append_of_pos hwhole]
  obtain ⟨negative, whole, part⟩ := n
  cases part with
  | nil => simp [h.whole_ne_nil]
  | cons c cs => simp [h.whole_ne_nil, hpoint, hpart]

/-- A numeral is read back from its text. -/
lemma Canonical.read?_chars (h : n.Canonical) : read? n.chars = some n := by
  have hread := h.readUnsigned?_eq_some
  unfold chars
  cases hsign : n.negative with
  | true =>
    rw [hsign] at hread
    exact hread
  | false =>
    rw [hsign] at hread
    -- The first character is a digit and so no minus.
    obtain ⟨c, cs, hc⟩ := List.exists_cons_of_ne_nil h.whole_ne_nil
    have hdigit : c.isDigit = true := h.isDigit c (by simp [hc])
    have hminus : c ≠ '-' := by
      rintro rfl
      exact absurd hdigit (by decide)
    rw [hc, List.cons_append] at hread
    rw [if_neg Bool.false_ne_true, List.nil_append, hc, List.cons_append, read?, hread]
    rintro cs' heq
    exact hminus (List.cons.inj heq).1

/-! ### The numeral of a decimal -/

/-- The digits of a number, filled up with zeros so that one is left in front of the point. -/
def filledDigits (n scale : Nat) : List Char :=
  List.replicate (scale + 1 - (digits n).length) '0' ++ digits n

/-- The numeral of an unscaled value with the point so many digits from the right. -/
def ofUnscaled (unscaled : Int) (scale : Nat) : DecimalNumeral :=
  let filled := filledDigits unscaled.natAbs scale
  { negative := unscaled < 0
    whole := filled.take (filled.length - scale)
    part := filled.drop (filled.length - scale) }

section FilledDigits

variable (n scale : Nat)

lemma scale_lt_length_filledDigits : scale < (filledDigits n scale).length := by
  rw [filledDigits, List.length_append, List.length_replicate]
  omega

lemma isDigit_of_mem_filledDigits {c : Char} (h : c ∈ filledDigits n scale) :
    c.isDigit = true := by
  rcases List.mem_append.mp h with h | h
  · rw [List.eq_of_mem_replicate h]
    decide
  · exact isDigit_of_mem_digits h

lemma value_filledDigits : IntText.value (filledDigits n scale) = n := by
  rw [filledDigits, IntText.value_append, IntText.value_replicate_zero, IntText.value_digits]
  omega

/-- A zero comes first only if a single digit is in front of the point. -/
lemma length_filledDigits_of_head?_eq_zero (h : (filledDigits n scale).head? = some '0') :
    (filledDigits n scale).length = scale + 1 := by
  have hlength : (filledDigits n scale).length =
      scale + 1 - (digits n).length + (digits n).length := by
    rw [filledDigits, List.length_append, List.length_replicate]
  by_cases hfill : (digits n).length ≤ scale
  · omega
  · have hempty : scale + 1 - (digits n).length = 0 := by omega
    rw [filledDigits, hempty, List.replicate_zero, List.nil_append] at h
    have := length_digits_of_head?_eq_zero h
    omega

end FilledDigits

variable (unscaled : Int) (scale : Nat)

lemma whole_append_part_ofUnscaled : (ofUnscaled unscaled scale).whole ++
    (ofUnscaled unscaled scale).part = filledDigits unscaled.natAbs scale :=
  List.take_append_drop _ _

lemma length_part_ofUnscaled : (ofUnscaled unscaled scale).part.length = scale := by
  have := scale_lt_length_filledDigits unscaled.natAbs scale
  rw [ofUnscaled, List.length_drop]
  omega

/-- Filling up with zeros makes no second leading zero. -/
lemma canonical_ofUnscaled : (ofUnscaled unscaled scale).Canonical := by
  have hsplit := whole_append_part_ofUnscaled unscaled scale
  have hlength := congrArg List.length hsplit
  rw [List.length_append, length_part_ofUnscaled] at hlength
  have hscale := scale_lt_length_filledDigits unscaled.natAbs scale
  have hne : (ofUnscaled unscaled scale).whole ≠ [] := by
    rw [← List.length_pos_iff]
    omega
  refine ⟨hne, ?_, fun hhead => ?_⟩
  · rw [hsplit]
    exact fun c => isDigit_of_mem_filledDigits _ _
  · have hfilled : (filledDigits unscaled.natAbs scale).head? = some '0' := by
      rw [← hsplit, List.head?_append_of_ne_nil _ hne, hhead]
    have hone := length_filledDigits_of_head?_eq_zero _ _ hfilled
    obtain ⟨c, hc⟩ := List.length_eq_one_iff.mp
      (show (ofUnscaled unscaled scale).whole.length = 1 by omega)
    rw [hc, List.head?_cons, Option.some.injEq] at hhead
    rw [hc, hhead]

/-- The numeral stands for the unscaled value over the power of ten of the scale. -/
lemma value_ofUnscaled : (ofUnscaled unscaled scale).value * 10 ^ scale = unscaled := by
  have hdigits : IntText.value (ofUnscaled unscaled scale).whole * 10 ^ scale +
      IntText.value (ofUnscaled unscaled scale).part = unscaled.natAbs := by
    have h := IntText.value_append (ofUnscaled unscaled scale).whole
      (ofUnscaled unscaled scale).part
    rw [whole_append_part_ofUnscaled, value_filledDigits, length_part_ofUnscaled] at h
    exact h.symm
  have hmagnitude : (IntText.value (ofUnscaled unscaled scale).whole +
      IntText.value (ofUnscaled unscaled scale).part / 10 ^ scale : ℚ) * 10 ^ scale =
      unscaled.natAbs := by
    rw [← hdigits]
    push_cast
    field_simp
  unfold value
  rw [length_part_ofUnscaled]
  by_cases hneg : unscaled < 0
  · rw [if_pos (by simp [ofUnscaled, hneg]), neg_mul, hmagnitude, Nat.cast_natAbs, abs_of_neg hneg]
    push_cast
    ring
  · rw [if_neg (by simp [ofUnscaled, hneg]), hmagnitude, Nat.cast_natAbs,
      abs_of_nonneg (not_lt.mp hneg)]

/-- The text of a decimal is the one of its numeral. -/
lemma chars_ofUnscaled : (ofUnscaled unscaled scale).chars = decimalChars unscaled scale := by
  have hsplit := whole_append_part_ofUnscaled unscaled scale
  have hpart := length_part_ofUnscaled unscaled scale
  have hsign : (ofUnscaled unscaled scale).negative = decide (unscaled < 0) := rfl
  unfold chars decimalChars
  rw [hsign]
  cases scale with
  | zero =>
    have hfilled : filledDigits unscaled.natAbs 0 = digits unscaled.natAbs := by
      have := List.length_pos_iff.mpr (digits_ne_nil unscaled.natAbs)
      rw [filledDigits, show 0 + 1 - (digits unscaled.natAbs).length = 0 by omega]
      rfl
    rw [List.length_eq_zero_iff] at hpart
    rw [hpart, List.append_nil, hfilled] at hsplit
    simp [hsplit, hpart]
  | succ scale =>
    have hne : (ofUnscaled unscaled (scale + 1)).part ≠ [] := by
      rw [← List.length_pos_iff]
      omega
    rw [if_neg hne, if_neg (Nat.succ_ne_zero scale)]
    simp [ofUnscaled, filledDigits]

end DecimalNumeral

/-! ### Texts of one scale -/

open DecimalNumeral

/-- How decimals of a scale are written. -/
structure WritesDecimals (scale : Nat) : Prop where
  /-- The text is a numeral without a zero in front that could be left out. It starts with a minus
  exactly if the number is negative, and has as many digits after the point as the scale says. -/
  form : ∀ unscaled : Int, ∃ n : DecimalNumeral, decimalChars unscaled scale = n.chars ∧
    n.Canonical ∧ (n.negative = true ↔ unscaled < 0) ∧ n.part.length = scale
  /-- The numeral that is read from the text is the number over the power of ten of the scale. -/
  readBack : ∀ unscaled : Int, ∃ n : DecimalNumeral,
    read? (decimalChars unscaled scale) = some n ∧ n.value * 10 ^ scale = unscaled
  /-- Different numbers have different texts. -/
  injective : Function.Injective fun unscaled => decimalChars unscaled scale

lemma read?_decimalChars (unscaled : Int) (scale : Nat) :
    read? (decimalChars unscaled scale) = some (ofUnscaled unscaled scale) := by
  rw [← chars_ofUnscaled]
  exact (canonical_ofUnscaled unscaled scale).read?_chars

/-- Decimals of each scale are written exactly, whatever the number of their digits is. -/
theorem writesDecimals (scale : Nat) : WritesDecimals scale where
  form unscaled := ⟨ofUnscaled unscaled scale, (chars_ofUnscaled unscaled scale).symm,
    canonical_ofUnscaled unscaled scale, decide_eq_true_iff, length_part_ofUnscaled unscaled scale⟩
  readBack unscaled :=
    ⟨ofUnscaled unscaled scale, read?_decimalChars unscaled scale, value_ofUnscaled unscaled scale⟩
  injective a b h := by
    have hread := congrArg read? h
    simp only [read?_decimalChars, Option.some.injEq] at hread
    have hvalue := value_ofUnscaled a scale
    rw [hread, value_ofUnscaled b scale] at hvalue
    exact_mod_cast hvalue.symm

/-- A scale with more digits than the smallest integer of 128 bits has. -/
example : decimalChars (-2 ^ 127) 40 =
    "-0.0170141183460469231731687303715884105728".toList := by
  decide +kernel

end Engine

end PlanImport
