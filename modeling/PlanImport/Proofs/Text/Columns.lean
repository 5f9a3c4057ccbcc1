import PlanImport.Proofs.Number.Digits

/-!
# Numbers in columns

A number that has no more digits than there are columns is written with exactly one digit in each
of them, and every number is read back from its text, whatever zeros are filled in.
-/

namespace PlanImport.Text

/-! ### Digits of a number of columns -/

/-- The last digits of a number, one for each column. -/
def columns : Nat → Nat → List Char
  | 0, _ => []
  | width + 1, n => columns width (n / 10) ++ [(n % 10).digitChar]

@[simp] lemma length_columns (width n : Nat) : (columns width n).length = width := by
  induction width generalizing n with
  | zero => rfl
  | succ width ih => rw [columns, List.length_append, ih, List.length_singleton]

lemma isDigit_of_mem_columns {width n : Nat} {c : Char} (h : c ∈ columns width n) :
    c.isDigit = true := by
  induction width generalizing n with
  | zero => cases h
  | succ width ih =>
    rcases List.mem_append.mp h with h | h
    · exact ih h
    · rw [List.mem_singleton.mp h, Nat.isDigit_digitChar]
      exact decide_eq_true (Nat.mod_lt n (by decide))

lemma columns_zero (width : Nat) : columns width 0 = List.replicate width '0' := by
  induction width with
  | zero => rfl
  | succ width ih =>
    rw [columns, Nat.zero_div, ih, List.replicate_succ']
    rfl

/-- The digits of a number, filled with zeros, if it does not need more columns. -/
lemma columns_eq {width n : Nat} (h : n < 10 ^ (width + 1)) :
    columns (width + 1) n = List.replicate (width + 1 - (digits n).length) '0' ++ digits n := by
  induction width generalizing n with
  | zero =>
    have hn : n < 10 := by simpa using h
    rw [digits, Nat.toDigits_of_lt_base hn, columns, Nat.mod_eq_of_lt hn]
    rfl
  | succ width ih =>
    rw [columns]
    by_cases hn : n < 10
    · rw [Nat.div_eq_of_lt hn, Nat.mod_eq_of_lt hn, columns_zero, digits,
        Nat.toDigits_of_lt_base hn]
      rfl
    · have hsplit : digits n = digits (n / 10) ++ [(n % 10).digitChar] :=
        Nat.toDigits_of_base_le (by decide) (Nat.not_lt.mp hn)
      rw [ih (by rw [Nat.pow_succ] at h; omega), hsplit, List.length_append, List.length_singleton,
        Nat.add_sub_add_right, List.append_assoc]

/-- A number that fits into the columns is read back from them. -/
lemma value_columns {width n : Nat} (h : n < 10 ^ width) :
    IntText.value (columns width n) = n := by
  cases width with
  | zero =>
    rw [Nat.pow_zero, Nat.lt_one_iff] at h
    rw [h]
    rfl
  | succ width =>
    rw [columns_eq h, IntText.value_append, IntText.value_replicate_zero, IntText.value_digits]
    omega

/-- The digits of a number in at least so many columns. -/
def atLeast (width n : Nat) : List Char := if n < 10 ^ width then columns width n else digits n

/-- Filling up with zeros gives one digit for each column, or all digits of a number that needs
more. -/
lemma padded_natCast (width n : Nat) : padded (width + 1) n = atLeast (width + 1) n := by
  have hsign : ¬ (n : Int) < 0 := by omega
  rw [padded, if_neg hsign, List.length_nil, Nat.sub_zero, List.nil_append, Int.natAbs_natCast,
    atLeast]
  split_ifs with h
  · exact (columns_eq h).symm
  · have hlength : ¬ (digits n).length ≤ width + 1 := by
      rwa [digits, Nat.length_toDigits_le_iff (by decide) width.succ_pos]
    rw [Nat.sub_eq_zero_of_le (by omega)]
    rfl

lemma padded_eq_columns {width n : Nat} (h : n < 10 ^ (width + 1)) :
    padded (width + 1) n = columns (width + 1) n := by
  rw [padded_natCast, atLeast, if_pos h]

lemma columns_two (n : Nat) :
    columns 2 n = [(n / 10 % 10).digitChar, (n % 10).digitChar] := rfl

/-- There is no character but digits and a minus. -/
lemma eq_minus_or_isDigit_of_mem_padded {width : Nat} {n : Int} {c : Char}
    (h : c ∈ padded width n) : c = '-' ∨ c.isDigit = true := by
  have hzeros : ∀ k, c ∈ List.replicate k '0' ++ digits n.natAbs → c.isDigit = true := by
    intro k hc
    rcases List.mem_append.mp hc with hc | hc
    · rw [List.eq_of_mem_replicate hc]
      decide
    · exact isDigit_of_mem_digits hc
  unfold padded at h
  dsimp only at h
  rw [List.append_assoc] at h
  split_ifs at h
  · rcases List.mem_cons.mp h with h | h
    · exact .inl h
    · exact .inr (hzeros _ h)
  · exact .inr (hzeros _ h)

lemma ne_blank_of_mem_padded {width : Nat} {n : Int} {c : Char} (h : c ∈ padded width n) :
    c ≠ ' ' := by
  rintro rfl
  exact absurd (eq_minus_or_isDigit_of_mem_padded h) (by decide)

lemma isDigit_of_mem_atLeast {width n : Nat} {c : Char} (h : c ∈ atLeast width n) :
    c.isDigit = true := by
  unfold atLeast at h
  split_ifs at h
  · exact isDigit_of_mem_columns h
  · exact isDigit_of_mem_digits h

lemma value_atLeast (width n : Nat) : IntText.value (atLeast width n) = n := by
  unfold atLeast
  split_ifs with h
  · exact value_columns h
  · exact IntText.value_digits n

lemma atLeast_ne_nil (width n : Nat) : atLeast (width + 1) n ≠ [] := by
  unfold atLeast
  split_ifs
  · rw [← List.length_pos_iff, length_columns]
    exact width.succ_pos
  · exact digits_ne_nil n

/-! ### Reading -/

/-- Read digits, at least one, as a number. -/
def readNat? (cs : List Char) : Option Nat :=
  if cs ≠ [] ∧ cs.all Char.isDigit = true then some (IntText.value cs) else none

/-- Read digits, at least one, and a minus in front of them, if there is one. -/
def readInt? : List Char → Option Int
  | '-' :: cs => (readNat? cs).map fun n : Nat => -(n : Int)
  | cs => (readNat? cs).map fun n : Nat => (n : Int)

lemma readNat?_eq_some {cs : List Char} (hne : cs ≠ [])
    (hdigit : ∀ c ∈ cs, c.isDigit = true) : readNat? cs = some (IntText.value cs) :=
  if_pos ⟨hne, List.all_eq_true.mpr hdigit⟩

lemma readNat?_columns {width n : Nat} (h : n < 10 ^ (width + 1)) :
    readNat? (columns (width + 1) n) = some n := by
  rw [readNat?_eq_some _ fun _ => isDigit_of_mem_columns, value_columns h]
  rw [← List.length_pos_iff, length_columns]
  exact width.succ_pos

lemma readNat?_columns_two {n : Nat} (h : n < 100) :
    readNat? [(n / 10 % 10).digitChar, (n % 10).digitChar] = some n :=
  columns_two n ▸ readNat?_columns h

lemma readNat?_atLeast (width n : Nat) : readNat? (atLeast (width + 1) n) = some n := by
  rw [readNat?_eq_some (atLeast_ne_nil width n) fun _ => isDigit_of_mem_atLeast, value_atLeast]

/-- Digits without a minus are read as they are. -/
lemma readInt?_of_readNat? {cs : List Char} {n : Nat} (h : readNat? cs = some n) :
    readInt? cs = some (n : Int) := by
  unfold readInt?
  split
  · -- A minus is no digit.
    simp [readNat?] at h
  · rw [h]
    rfl

/-- Whatever zeros are filled in, a number is read back. -/
lemma readInt?_padded (width : Nat) (n : Int) : readInt? (padded width n) = some n := by
  have hread : ∀ zeros, readNat? (List.replicate zeros '0' ++ digits n.natAbs) = some n.natAbs := by
    intro zeros
    rw [readNat?_eq_some, IntText.value_append, IntText.value_replicate_zero, IntText.value_digits,
      Nat.zero_mul, Nat.zero_add]
    · exact List.append_ne_nil_of_right_ne_nil _ (digits_ne_nil _)
    · intro c hc
      rcases List.mem_append.mp hc with hc | hc
      · rw [List.eq_of_mem_replicate hc]
        decide
      · exact isDigit_of_mem_digits hc
  unfold padded
  dsimp only
  by_cases hneg : n < 0
  · rw [if_pos hneg, List.append_assoc, List.singleton_append, readInt?, hread, Option.map_some,
      Option.some.injEq]
    omega
  · rw [if_neg hneg, List.nil_append, readInt?_of_readNat? (hread _), Option.some.injEq]
    omega

end PlanImport.Text
