import Mathlib.Data.List.DropRight
import PlanImport.Proofs.Number.Digits
import PlanImport.Proofs.Result
import PlanImport.Text.Blank

/-!
# The grammar of integer texts

A text is read as an integer exactly if it is a sign, which may be left out, and digits, and the
integer is within the bounds. What is read from a trimmed text may have any blanks around it.
-/

namespace PlanImport

namespace IntText

variable {cs : List Char} {lo hi n : Int}

/-! ### Sign and digits -/

/-- Whether characters are digits, at least one. -/
def AreDigits (cs : List Char) : Prop := cs ≠ [] ∧ ∀ c ∈ cs, c.isDigit = true

/-- The integer that an optional sign and digits stand for. -/
inductive Spells : List Char → Int → Prop
  | unsigned {digits : List Char} (h : AreDigits digits) : Spells digits (value digits)
  | plus {digits : List Char} (h : AreDigits digits) : Spells ('+' :: digits) (value digits)
  | minus {digits : List Char} (h : AreDigits digits) :
    Spells ('-' :: digits) (-(value digits : Int))

/-- These are digits if there is one and nothing is left of the text after them. -/
lemma areDigits_iff : AreDigits cs ↔ ¬ ((cs.takeWhile Char.isDigit).isEmpty ||
    (cs.takeWhile Char.isDigit).length < cs.length) = true := by
  have hprefix := List.takeWhile_prefix (l := cs) Char.isDigit
  rw [Bool.or_eq_true, decide_eq_true_eq, List.isEmpty_iff, not_or, Nat.not_lt]
  constructor
  · rintro ⟨hne, hdigit⟩
    rw [List.takeWhile_eq_self_iff.mpr hdigit]
    exact ⟨hne, Nat.le_refl _⟩
  · rintro ⟨hne, hlength⟩
    have htake := hprefix.eq_of_length_le hlength
    exact ⟨htake ▸ hne, List.takeWhile_eq_self_iff.mp htake⟩

/-- Digits are read if there is nothing else. -/
lemma readDigits_eq_ok_iff {negative : Bool} : readDigits lo hi negative cs = .ok n ↔
    AreDigits cs ∧ n = (if negative then -(value cs : Int) else value cs) ∧ lo ≤ n ∧ n ≤ hi := by
  unfold readDigits
  by_cases hdigits : AreDigits cs
  · have hrest := areDigits_iff.mp hdigits
    rw [List.takeWhile_eq_self_iff.mpr hdigits.2] at hrest ⊢
    simp only [hrest, hdigits, true_and, if_false, Bool.false_eq_true]
    generalize (if negative then -(value cs : Int) else value cs) = m
    split_ifs
    · simp
      omega
    · simp
      omega
    · rw [Except.ok.injEq]
      omega
  · have hrest := not_not.mp (areDigits_iff.not.mp hdigits)
    simp only [hrest, hdigits, false_and, if_true, iff_false]
    split_ifs <;> nofun

lemma spells_plus_iff : Spells ('+' :: cs) n ↔ AreDigits cs ∧ n = value cs := by
  constructor
  · intro h
    cases h with
    | unsigned h => exact absurd (h.2 '+' List.mem_cons_self) (by decide)
    | plus h => exact ⟨h, rfl⟩
  · rintro ⟨h, rfl⟩
    exact .plus h

lemma spells_minus_iff : Spells ('-' :: cs) n ↔ AreDigits cs ∧ n = -(value cs : Int) := by
  constructor
  · intro h
    cases h with
    | unsigned h => exact absurd (h.2 '-' List.mem_cons_self) (by decide)
    | minus h => exact ⟨h, rfl⟩
  · rintro ⟨h, rfl⟩
    exact .minus h

/-- A text without a sign is read from its first character on. -/
lemma spells_iff_of_unsigned (hplus : ∀ rest, cs ≠ '+' :: rest) (hminus : ∀ rest, cs ≠ '-' :: rest) :
    Spells cs n ↔ AreDigits cs ∧ n = value cs := by
  constructor
  · intro h
    cases h with
    | unsigned h => exact ⟨h, rfl⟩
    | plus => exact absurd rfl (hplus _)
    | minus => exact absurd rfl (hminus _)
  · rintro ⟨h, rfl⟩
    exact .unsigned h

/-- An integer is read exactly if it is spelled and within the bounds. -/
lemma read_eq_ok_iff : read lo hi cs = .ok n ↔ Spells cs n ∧ lo ≤ n ∧ n ≤ hi := by
  unfold read
  split
  · rw [spells_iff_of_unsigned (by simp) (by simp)]
    simp [AreDigits]
  · rw [readDigits_eq_ok_iff, spells_plus_iff, and_assoc]
    simp
  · rw [readDigits_eq_ok_iff, spells_minus_iff, and_assoc]
    simp
  · next hplus hminus =>
    rw [readDigits_eq_ok_iff, spells_iff_of_unsigned hplus hminus, and_assoc]
    simp

/-- The bounds are those of the type, so they ask for nothing more of a value. -/
lemma readInt64_eq_ok_iff {m : Int64} : readInt64 cs = .ok m ↔ Spells cs m.toInt := by
  have hlow := m.le_toInt
  have hhigh := m.toInt_lt
  rw [readInt64, map_eq_ok]
  simp only [read_eq_ok_iff]
  constructor
  · rintro ⟨n, ⟨hspells, hlo, hhi⟩, rfl⟩
    rwa [Int64.toInt_ofInt_of_le hlo (by omega)]
  · intro h
    exact ⟨m.toInt, ⟨h, hlow, by omega⟩, Int64.ofInt_toInt m⟩

/-- An integer is written in the way that it is read in. -/
lemma spells_decimal (n : Int) : Spells (Text.decimal n) n := by
  have hdigits : AreDigits (Text.digits n.natAbs) :=
    ⟨Text.digits_ne_nil _, fun _ => Text.isDigit_of_mem_digits⟩
  rcases Int.lt_or_le n 0 with h | h
  · have hminus := Spells.minus hdigits
    rw [IntText.value_digits, show -(n.natAbs : Int) = n by omega] at hminus
    rwa [Text.decimal_of_neg h]
  · have hunsigned := Spells.unsigned hdigits
    rw [IntText.value_digits, show (n.natAbs : Int) = n by omega] at hunsigned
    rwa [Text.decimal_of_nonneg h]

end IntText

/-! ### Blanks around a text -/

namespace Text

variable {before inner after : List Char}

lemma isBlank_eq_false_of_isDigit {c : Char} (h : c.isDigit = true) : isBlank c = false := by
  have hbounds : 48 ≤ c.toNat ∧ c.toNat ≤ 57 := by
    simpa [Char.isDigit, UInt32.le_iff_toNat_le] using h
  simp [isBlank]
  omega

/-- Only the blanks around a text are left out. -/
lemma trim_append (hbefore : ∀ c ∈ before, isBlank c = true) (hne : inner ≠ [])
    (hinner : ∀ c ∈ inner, isBlank c = false) (hafter : ∀ c ∈ after, isBlank c = true) :
    trim (before ++ inner ++ after) = inner := by
  have hleft : (inner ++ after).dropWhile isBlank = inner ++ after := by
    obtain ⟨c, rest, rfl⟩ := List.exists_cons_of_ne_nil hne
    exact List.dropWhile_cons_of_neg (by simp [hinner c List.mem_cons_self])
  have hright : inner.reverse.dropWhile isBlank = inner.reverse := by
    rw [List.dropWhile_eq_self_iff]
    intro hlength
    rw [hinner _ (List.mem_reverse.mp (List.getElem_mem hlength))]
    decide
  rw [trim, List.append_assoc, List.dropWhile_append_of_pos hbefore, hleft, List.reverse_append,
    List.dropWhile_append_of_pos (fun c hc => hafter c (List.mem_reverse.mp hc)), hright,
    List.reverse_reverse]

/-- Trimming takes blanks away at both ends, and nothing else. -/
lemma exists_trim (cs : List Char) : ∃ before after, cs = before ++ trim cs ++ after ∧
    (∀ c ∈ before, isBlank c = true) ∧ ∀ c ∈ after, isBlank c = true := by
  refine ⟨cs.takeWhile isBlank, (cs.dropWhile isBlank).rtakeWhile isBlank, ?_, ?_, ?_⟩
  · have htrim : trim cs = (cs.dropWhile isBlank).rdropWhile isBlank := rfl
    rw [htrim, List.append_assoc, List.rdropWhile_append_rtakeWhile,
      List.takeWhile_append_dropWhile]
  · exact fun c => List.mem_takeWhile_imp
  · exact fun c => List.mem_rtakeWhile_imp

end Text

namespace IntText

open Text

/-- An optional sign and digits between blanks, with the integer that they stand for. -/
def SpellsTrimmed (cs : List Char) (n : Int) : Prop :=
  ∃ before inner after, cs = before ++ inner ++ after ∧ (∀ c ∈ before, isBlank c = true) ∧
    (∀ c ∈ after, isBlank c = true) ∧ Spells inner n

variable {cs : List Char} {n : Int}

lemma Spells.ne_nil (h : Spells cs n) : cs ≠ [] := by
  cases h with
  | unsigned h => exact h.1
  | plus | minus => exact List.cons_ne_nil _ _

/-- No blank is part of an integer. -/
lemma Spells.isBlank_eq_false (h : Spells cs n) : ∀ c ∈ cs, isBlank c = false := by
  have hdigits {digits : List Char} (h : AreDigits digits) : ∀ c ∈ digits, isBlank c = false :=
    fun c hc => isBlank_eq_false_of_isDigit (h.2 c hc)
  cases h with
  | unsigned h => exact hdigits h
  | plus h | minus h => exact List.forall_mem_cons.mpr ⟨rfl, hdigits h⟩

lemma spells_trim_iff : Spells (trim cs) n ↔ SpellsTrimmed cs n := by
  constructor
  · intro h
    obtain ⟨before, after, hcs, hbefore, hafter⟩ := exists_trim cs
    exact ⟨before, trim cs, after, hcs, hbefore, hafter, h⟩
  · rintro ⟨before, inner, after, rfl, hbefore, hafter, h⟩
    rwa [trim_append hbefore h.ne_nil h.isBlank_eq_false hafter]

end IntText

end PlanImport
