import Mathlib.Algebra.Group.Nat.Defs
import Mathlib.Tactic.Common
import PlanImport.Number.IntText
import PlanImport.Text.Padded

/-!
# Digits that are read back

The decimal digits of a number are digits, at least one, without a zero in front of others, and
their value is the number.
-/

namespace PlanImport

open Text

lemma IntText.value_digits (n : Nat) : IntText.value (digits n) = n := by
  have h := @Nat.ofDigitChars_ten_toDigits n
  rwa [Nat.ofDigitChars_eq_foldl] at h

/-- The value of digits one after the other. -/
lemma IntText.value_append (whole part : List Char) :
    value (whole ++ part) = value whole * 10 ^ part.length + value part := by
  have h := @Nat.ofDigitChars_eq_ofDigitChars_zero part (value whole)
  simp only [Nat.ofDigitChars_eq_foldl] at h
  rw [value, List.foldl_append]
  refine h.trans ?_
  rw [Nat.mul_comm]
  rfl

lemma IntText.value_replicate_zero (n : Nat) : value (List.replicate n '0') = 0 := by
  have h := @Nat.ofDigitChars_replicate_zero 10 0 n
  rwa [Nat.ofDigitChars_eq_foldl, Nat.mul_zero] at h

lemma Text.digits_ne_nil (n : Nat) : digits n ≠ [] := Nat.toDigits_ne_nil

lemma Text.isDigit_of_mem_digits {n : Nat} {c : Char} (h : c ∈ digits n) : c.isDigit = true :=
  Nat.isDigit_of_mem_toDigits (by decide) (by decide) h

/-- Only the digits of zero start with a zero. -/
lemma Text.length_digits_of_head?_eq_zero {n : Nat} (h : (digits n).head? = some '0') :
    (digits n).length = 1 := by
  induction n using Nat.strongRecOn with
  | _ n ih =>
    by_cases hn : n < 10
    · rw [digits, Nat.toDigits_of_lt_base hn, List.length_singleton]
    · have hsplit : digits n = digits (n / 10) ++ [(n % 10).digitChar] :=
        Nat.toDigits_of_base_le (by decide) (Nat.not_lt.mp hn)
      rcases hfirst : digits (n / 10) with _ | ⟨c, cs⟩
      · exact absurd hfirst (digits_ne_nil _)
      rw [hsplit, hfirst, List.cons_append, List.head?_cons, Option.some.injEq] at h
      have hlength := ih (n / 10) (by omega) (by rw [hfirst, h, List.head?_cons])
      -- A zero is all there is of `n / 10`, which is not zero.
      rw [hfirst, List.length_cons, Nat.add_eq_right, List.length_eq_zero_iff] at hlength
      have hvalue := IntText.value_digits (n / 10)
      rw [hfirst, h, hlength] at hvalue
      have hzero : IntText.value ['0'] = 0 := rfl
      omega

end PlanImport
