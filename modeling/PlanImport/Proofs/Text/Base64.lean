import Mathlib.Tactic.Common
import PlanImport.Proofs.Result
import PlanImport.Text.Base64

/-!
# Base64 is read as it is written

A text is read in an alphabet exactly if it is the one that its bytes are written as in this
alphabet. So padding is never left out, and the bits of a last symbol that belong to no byte are
zero.
-/

namespace PlanImport.Base64

variable {a : Alphabet} {offset : Nat} {text bytes : List UInt8}

/-! ### Symbols -/

namespace Alphabet

def symbols (a : Alphabet) (xs : List (Fin 64)) : List UInt8 :=
  xs.map fun x : Fin 64 => a.symbol x.val

@[simp] lemma symbols_nil (a : Alphabet) : a.symbols [] = [] := rfl

@[simp] lemma symbols_cons (a : Alphabet) (x : Fin 64) (xs : List (Fin 64)) :
    a.symbols (x :: xs) = a.symbol x :: a.symbols xs := rfl

@[simp] lemma length_symbols (a : Alphabet) (xs : List (Fin 64)) :
    (a.symbols xs).length = xs.length := by
  rw [symbols, List.length_map]

@[simp] lemma number?_symbol (a : Alphabet) (x : Fin 64) : a.number? (a.symbol x) = some x.val := by
  revert x
  cases a <;> decide

@[simp] lemma number?_pad (a : Alphabet) : a.number? pad = none := by
  cases a <;> rfl

@[simp] lemma symbol_ne_pad (a : Alphabet) (x : Fin 64) : a.symbol x ≠ pad := by
  intro h
  have hx := a.number?_symbol x
  rw [h, number?_pad] at hx
  cases hx

/-- Only symbols have numbers. -/
lemma number?_eq_some_iff {b : UInt8} {n : Nat} :
    a.number? b = some n ↔ ∃ x : Fin 64, n = x ∧ b = a.symbol x := by
  constructor
  · intro h
    have hall : ∀ m < 256, ∀ n ∈ a.number? (UInt8.ofNat m),
        n < 64 ∧ UInt8.ofNat m = a.symbol n := by
      cases a <;> decide +kernel
    have hb := hall b.toNat b.toNat_lt n (by rwa [UInt8.ofNat_toNat])
    rw [UInt8.ofNat_toNat] at hb
    exact ⟨⟨n, hb.1⟩, rfl, hb.2⟩
  · rintro ⟨x, rfl, rfl⟩
    exact a.number?_symbol x

end Alphabet

/-! ### Bytes of a group -/

lemma toNat_first (x y : Fin 64) : (UInt8.ofNat (x * 4 + y / 16)).toNat = x * 4 + y / 16 :=
  UInt8.toNat_ofNat_of_lt' (by simp only [UInt8.size]; omega)

lemma toNat_second (y z : Fin 64) :
    (UInt8.ofNat (y % 16 * 16 + z / 4)).toNat = y % 16 * 16 + z / 4 :=
  UInt8.toNat_ofNat_of_lt' (by simp only [UInt8.size]; omega)

lemma toNat_third (z w : Fin 64) : (UInt8.ofNat (z % 4 * 64 + w)).toNat = z % 4 * 64 + w :=
  UInt8.toNat_ofNat_of_lt' (by simp only [UInt8.size]; omega)

lemma map_toNat_group (x y z w : Fin 64) : (group x y z w).map UInt8.toNat =
    [x.val * 4 + y / 16, y.val % 16 * 16 + z / 4, z.val % 4 * 64 + w] := by
  simp only [group, List.map_cons, List.map_nil, toNat_first, toNat_second, toNat_third]

/-- Any three bytes are those of four numbers. -/
lemma exists_group (b c d : UInt8) : ∃ x y z w : Fin 64, [b, c, d] = group x y z w := by
  have hb := b.toNat_lt
  have hc := c.toNat_lt
  have hd := d.toNat_lt
  refine ⟨⟨b.toNat / 4, by omega⟩, ⟨b.toNat % 4 * 16 + c.toNat / 16, by omega⟩,
    ⟨c.toNat % 16 * 4 + d.toNat / 64, by omega⟩, ⟨d.toNat % 64, by omega⟩, ?_⟩
  apply List.map_injective_iff.mpr fun _ _ => UInt8.toNat.inj
  rw [map_toNat_group]
  simp only [List.map_cons, List.map_nil, List.cons.injEq, and_true]
  omega

/-! ### Texts of groups -/

/-- A text of groups of symbols with the bytes that it stands for. Only the last group may be
padded, and then the bits that belong to no byte are zero. -/
inductive Encodes (a : Alphabet) : List UInt8 → List UInt8 → Prop
  | nil : Encodes a [] []
  | one (x y : Fin 64) (h : y.val % 16 = 0) :
    Encodes a [a.symbol x, a.symbol y, pad, pad] ((group x y 0 0).take 1)
  | two (x y z : Fin 64) (h : z.val % 4 = 0) :
    Encodes a [a.symbol x, a.symbol y, a.symbol z, pad] ((group x y z 0).take 2)
  | group (x y z w : Fin 64) {text bytes : List UInt8} (h : Encodes a text bytes) :
    Encodes a (a.symbol x :: a.symbol y :: a.symbol z :: a.symbol w :: text)
      (group x y z w ++ bytes)

lemma Encodes.length_mod (h : Encodes a text bytes) : text.length % 4 = 0 := by
  induction h with
  | nil | one | two => simp
  | group x y z w h ih =>
    simp only [List.length_cons]
    omega

/-- There is a text for all bytes. Three of them at a time make a group, and one or two that are
left make the last one. -/
lemma exists_encodes (a : Alphabet) (bytes : List UInt8) : ∃ text, Encodes a text bytes := by
  match bytes with
  | [] => exact ⟨_, .nil⟩
  | [b] =>
    obtain ⟨x, y, z, w, h⟩ := exists_group b 0 0
    have hnumbers := congrArg (List.map UInt8.toNat) h
    rw [map_toNat_group] at hnumbers
    have hy : y.val % 16 = 0 := by
      simp only [List.map_cons, List.map_nil, List.cons.injEq, UInt8.toNat_zero,
        and_true] at hnumbers
      omega
    exact ⟨_, congrArg (List.take 1) h ▸ Encodes.one x y hy⟩
  | [b, c] =>
    obtain ⟨x, y, z, w, h⟩ := exists_group b c 0
    have hnumbers := congrArg (List.map UInt8.toNat) h
    rw [map_toNat_group] at hnumbers
    have hz : z.val % 4 = 0 := by
      simp only [List.map_cons, List.map_nil, List.cons.injEq, UInt8.toNat_zero,
        and_true] at hnumbers
      omega
    exact ⟨_, congrArg (List.take 2) h ▸ Encodes.two x y z hz⟩
  | b :: c :: d :: rest =>
    obtain ⟨x, y, z, w, h⟩ := exists_group b c d
    obtain ⟨text, htext⟩ := exists_encodes a rest
    exact ⟨_, congrArg (· ++ rest) h ▸ Encodes.group x y z w htext⟩

/-- There is only one text for bytes, and it is the one that is written. -/
lemma Encodes.eq_encodeWith (h : Encodes a text bytes) : text = encodeWith a bytes := by
  induction h with
  | nil => rfl
  | one x y h =>
    simp only [Base64.group, List.take, encodeWith, toNat_first]
    congr 2 <;> congr 1 <;> omega
  | two x y z h =>
    simp only [Base64.group, List.take, encodeWith, toNat_first, toNat_second]
    congr 3 <;> congr 1 <;> omega
  | group x y z w h ih =>
    simp only [Base64.group, List.cons_append, List.nil_append, encodeWith, toNat_first,
      toNat_second, toNat_third, ih]
    congr 4 <;> congr 1 <;> omega

/-- Bytes are written as the one text that stands for them. -/
lemma encodes_iff : Encodes a text bytes ↔ text = encodeWith a bytes := by
  constructor
  · exact Encodes.eq_encodeWith
  · rintro rfl
    obtain ⟨text, h⟩ := exists_encodes a bytes
    exact h.eq_encodeWith ▸ h

/-! ### Reading the last group -/

/-- What is read of the last group is symbols with padding after them. -/
lemma readTail_eq_ok {t t' : Tail} {place : Nat} (h : readTail a offset place t text = .ok t') :
    ∃ xs count, text = a.symbols xs ++ List.replicate count pad ∧
      t'.numbers = (xs.map Fin.val).reverse ++ t.numbers ∧
      t'.pads.length = count + t.pads.length ∧ (t.pads ≠ [] → xs = []) := by
  induction text generalizing t place with
  | nil =>
    cases h
    exact ⟨[], 0, rfl, rfl, (Nat.zero_add _).symm, fun _ => rfl⟩
  | cons b text ih =>
    rw [readTail] at h
    by_cases hb : b = pad
    · rw [if_pos hb] at h
      split_ifs at h with hplace
      obtain ⟨xs, count, htext, hnumbers, hpads, hnil⟩ := ih h
      -- No symbol follows padding.
      obtain rfl := hnil (List.cons_ne_nil _ _)
      refine ⟨[], count + 1, ?_, hnumbers, ?_, fun _ => rfl⟩
      · rw [htext, hb]
        rfl
      · rw [hpads, List.length_cons]
        omega
    · rw [if_neg hb] at h
      split at h
      · cases h
      · rename_i hlast
        have hnil := List.getLast?_eq_none_iff.mp hlast
        split at h
        · cases h
        · rename_i n hn
          obtain ⟨x, rfl, rfl⟩ := Alphabet.number?_eq_some_iff.mp hn
          obtain ⟨xs, count, htext, hnumbers, hpads, -⟩ := ih h
          refine ⟨x :: xs, count, ?_, ?_, hpads, fun h => absurd hnil h⟩
          · rw [htext]
            rfl
          · rw [hnumbers]
            simp

/-- What is read of the last group is what it stands for. The cases are what it may consist of:
nothing, two symbols and two pads, three and one, or four. -/
lemma encodes_of_decodeTail (h : decodeTail a offset text = .ok bytes) (hlength : text.length ≤ 4) :
    Encodes a text bytes := by
  obtain ⟨t, ht, h⟩ := bind_eq_ok.mp h
  obtain ⟨xs, count, rfl, hnumbers, hpads, -⟩ := readTail_eq_ok ht
  rw [List.append_nil] at hnumbers
  have hcount : t.numbers.length = xs.length := by simp [hnumbers]
  rw [List.length_append, Alphabet.length_symbols, List.length_replicate] at hlength
  rw [List.length_nil, Nat.add_zero] at hpads
  simp only [hcount, hpads] at h
  split_ifs at h with hshort hpadded hpadded
  · cases h
  · cases h
  · cases h
  rw [Bool.and_eq_true, decide_eq_true_eq, not_and] at hshort
  rw [hnumbers] at h
  -- Symbols and padding are as many as make a group, and at least two of them are symbols.
  match xs with
  | [] =>
    obtain rfl : count = 0 := by simpa using hshort
    cases h
    exact .nil
  | [_] => exact absurd hshort (by simp)
  | [x, y] =>
    obtain rfl : count = 2 := by
      simp only [List.length_cons, List.length_nil] at hpadded hlength
      omega
    change (if y.val % 16 = 0 then Except.ok _ else Except.error _) = _ at h
    split_ifs at h with hy
    cases h
    exact .one x y hy
  | [x, y, z] =>
    obtain rfl : count = 1 := by
      simp only [List.length_cons, List.length_nil] at hpadded hlength
      omega
    change (if z.val % 4 = 0 then Except.ok _ else Except.error _) = _ at h
    split_ifs at h with hz
    cases h
    exact .two x y z hz
  | [x, y, z, w] =>
    obtain rfl : count = 0 := by
      simp only [List.length_cons, List.length_nil] at hlength
      omega
    cases h
    exact .group x y z w .nil
  | _ :: _ :: _ :: _ :: _ :: _ =>
    simp only [List.length_cons] at hlength
    omega

/-- What the last group stands for is what is read of it. -/
lemma decodeTail_of_encodes (h : Encodes a text bytes) (hlength : text.length ≤ 4) :
    decodeTail a offset text = .ok bytes := by
  cases h with
  | nil => rfl
  | one x y h => simp [decodeTail, readTail, bind, Except.bind, pure, Except.pure, h]
  | two x y z h => simp [decodeTail, readTail, bind, Except.bind, pure, Except.pure, h]
  | group x y z w h =>
    cases h with
    | nil => simp [decodeTail, readTail, bind, Except.bind, pure, Except.pure]
    | one | two | group =>
      simp only [List.length_cons] at hlength
      omega

/-! ### Reading a text -/

/-- What is read of groups is what they stand for. The induction is over the groups, as a group in
front of others has no pads. -/
lemma decodeGroups_eq_ok_iff : decodeGroups a offset text = .ok bytes ↔ Encodes a text bytes := by
  fun_induction decodeGroups a offset text generalizing bytes with
  | case1 offset b₀ b₁ b₂ b₃ b₄ rest number =>
    rename_i ih
    have hnumber {b : UInt8} {place n : Nat} :
        number b place = .ok n ↔ ∃ x : Fin 64, n = x ∧ b = a.symbol x := by
      rw [← Alphabet.number?_eq_some_iff]
      dsimp only [number]
      cases a.number? b <;> simp
    simp only [bind_eq_ok, ih, hnumber]
    constructor
    · rintro ⟨_, ⟨x, rfl, rfl⟩, _, ⟨y, rfl, rfl⟩, _, ⟨z, rfl, rfl⟩, _, ⟨w, rfl, rfl⟩, bytes', h, hb⟩
      cases hb
      exact .group x y z w h
    · intro h
      cases h with
      | group x y z w h =>
        exact ⟨_, ⟨x, rfl, rfl⟩, _, ⟨y, rfl, rfl⟩, _, ⟨z, rfl, rfl⟩, _, ⟨w, rfl, rfl⟩, _, h, rfl⟩
  | case2 offset text h =>
    have hlength : text.length ≤ 4 := by
      match text with
      | [] | [_] | [_, _] | [_, _, _] | [_, _, _, _] => simp
      | b₀ :: b₁ :: b₂ :: b₃ :: b₄ :: rest => exact (h b₀ b₁ b₂ b₃ b₄ rest rfl).elim
    exact ⟨fun h => encodes_of_decodeTail h hlength, fun h => decodeTail_of_encodes h hlength⟩

/-- A text is read as the bytes that it is the text of. -/
lemma decodeWith_eq_ok_iff : decodeWith a text = .ok bytes ↔ text = encodeWith a bytes := by
  rw [← encodes_iff, decodeWith]
  split
  · split_ifs with h
    · refine ⟨nofun, fun hencodes => ?_⟩
      have := hencodes.length_mod
      omega
    · exact decodeGroups_eq_ok_iff
  · rename_i h
    obtain rfl := List.getLast?_eq_none_iff.mp h
    change decodeGroups a 0 [] = .ok bytes ↔ _
    exact decodeGroups_eq_ok_iff

end PlanImport.Base64
