import Mathlib.Algebra.Group.Nat.Defs
import PlanImport.Proofs.Text.Base64

/-!
# The bits of a base64 text

Symbols have six bits and bytes have eight. The symbols of a text have the bits of its bytes, and
fewer than six zeros after them; there are whole groups of four when padding is counted. This
leaves one text for any bytes, and it is the one that they are written as.
-/

namespace PlanImport.Base64

variable {a : Alphabet} {text bytes : List UInt8}

/-! ### Bits of numbers -/

/-- The bits of a number, the highest first. -/
def bits : Nat → Nat → List Bool
  | 0, _ => []
  | width + 1, n => bits width (n / 2) ++ [decide (n % 2 = 1)]

@[simp] lemma length_bits (width n : Nat) : (bits width n).length = width := by
  induction width generalizing n with
  | zero => rfl
  | succ width ih => rw [bits, List.length_append, ih, List.length_singleton]

@[simp] lemma bits_zero (width : Nat) : bits width 0 = List.replicate width false := by
  induction width with
  | zero => rfl
  | succ width ih => rw [bits, Nat.zero_div, ih, List.replicate_succ']; rfl

/-- The bits of a number are those of its high part and of its low part. -/
lemma bits_add (v w m : Nat) {k : Nat} (h : k < 2 ^ w) :
    bits (v + w) (m * 2 ^ w + k) = bits v m ++ bits w k := by
  induction w generalizing k with
  | zero =>
    obtain rfl : k = 0 := by omega
    simp [bits]
  | succ w ih =>
    have hpow : m * 2 ^ (w + 1) = 2 * (m * 2 ^ w) := by
      rw [Nat.pow_succ']
      exact Nat.mul_left_comm _ _ _
    have hhalf : (m * 2 ^ (w + 1) + k) / 2 = m * 2 ^ w + k / 2 := by omega
    have hlow : (m * 2 ^ (w + 1) + k) % 2 = k % 2 := by omega
    rw [← Nat.add_assoc, bits, hhalf, hlow, ih (by omega), bits, List.append_assoc]

/-- The bits of a number tell it apart from all other ones that fit into so many bits. -/
lemma bits_inj {w m n : Nat} (hm : m < 2 ^ w) (hn : n < 2 ^ w) (h : bits w m = bits w n) :
    m = n := by
  induction w generalizing m n with
  | zero => omega
  | succ w ih =>
    obtain ⟨hhigh, hlow⟩ := List.append_inj h (by rw [length_bits, length_bits])
    have hhalf := ih (by omega) (by omega) hhigh
    simp only [List.cons.injEq, and_true, decide_eq_decide] at hlow
    omega

/-! ### Bits of symbols and bytes -/

def symbolBits (xs : List (Fin 64)) : List Bool := xs.flatMap fun x : Fin 64 => bits 6 x.val

def byteBits (bytes : List UInt8) : List Bool := bytes.flatMap fun b => bits 8 b.toNat

@[simp] lemma length_symbolBits (xs : List (Fin 64)) :
    (symbolBits xs).length = 6 * xs.length := by
  simp [symbolBits, List.length_flatMap, Nat.mul_comm]

@[simp] lemma length_byteBits (bytes : List UInt8) :
    (byteBits bytes).length = 8 * bytes.length := by
  simp [byteBits, List.length_flatMap, Nat.mul_comm]

/-- Blocks of bits of one width are told apart by their bits. -/
lemma flatMap_bits_inj {α : Type} {f : α → Nat} (width : Nat) (hwidth : 0 < width)
    (hlt : ∀ x, f x < 2 ^ width) (hf : ∀ x y, f x = f y → x = y) {xs ys : List α}
    (h : xs.flatMap (fun x => bits width (f x)) = ys.flatMap (fun x => bits width (f x))) :
    xs = ys := by
  induction xs generalizing ys with
  | nil =>
    cases ys with
    | nil => rfl
    | cons y ys =>
      have hlength := congrArg List.length h
      simp only [List.flatMap_nil, List.flatMap_cons, List.length_append, length_bits,
        List.length_nil] at hlength
      omega
  | cons x xs ih =>
    cases ys with
    | nil =>
      have hlength := congrArg List.length h
      simp only [List.flatMap_nil, List.flatMap_cons, List.length_append, length_bits,
        List.length_nil] at hlength
      omega
    | cons y ys =>
      obtain ⟨hhead, htail⟩ := List.append_inj h (by rw [length_bits, length_bits])
      rw [hf x y (bits_inj (hlt x) (hlt y) hhead), ih htail]

lemma symbolBits_inj {xs ys : List (Fin 64)} (h : symbolBits xs = symbolBits ys) : xs = ys :=
  flatMap_bits_inj 6 (by decide) Fin.isLt (fun _ _ => Fin.ext) h

lemma byteBits_inj {bytes bytes' : List UInt8} (h : byteBits bytes = byteBits bytes') :
    bytes = bytes' :=
  flatMap_bits_inj 8 (by decide) UInt8.toNat_lt (fun _ _ => UInt8.toNat.inj) h

lemma symbolBits_append (xs ys : List (Fin 64)) :
    symbolBits (xs ++ ys) = symbolBits xs ++ symbolBits ys := List.flatMap_append

lemma byteBits_append (bytes bytes' : List UInt8) :
    byteBits (bytes ++ bytes') = byteBits bytes ++ byteBits bytes' := List.flatMap_append

/-! ### Bits of a group -/

/-- The second symbol ends the first byte and begins the second one. -/
lemma bits_second_symbol (y : Fin 64) : bits 6 y = bits 2 (y / 16) ++ bits 4 (y % 16) := by
  have hlow : y.val % 16 < 2 ^ 4 := Nat.mod_lt _ (by decide)
  rw [← bits_add 2 4 _ hlow]
  congr 1
  omega

/-- The third symbol ends the second byte and begins the third one. -/
lemma bits_third_symbol (z : Fin 64) : bits 6 z = bits 4 (z / 4) ++ bits 2 (z % 4) := by
  have hlow : z.val % 4 < 2 ^ 2 := Nat.mod_lt _ (by decide)
  rw [← bits_add 4 2 _ hlow]
  congr 1
  omega

lemma bits_first_byte (x y : Fin 64) :
    bits 8 (x * 4 + y / 16) = bits 6 x ++ bits 2 (y / 16) :=
  bits_add 6 2 x (by omega)

lemma bits_second_byte (y z : Fin 64) :
    bits 8 (y % 16 * 16 + z / 4) = bits 4 (y % 16) ++ bits 4 (z / 4) :=
  bits_add 4 4 (y % 16) (by omega)

lemma bits_third_byte (z w : Fin 64) :
    bits 8 (z % 4 * 64 + w) = bits 2 (z % 4) ++ bits 6 w :=
  bits_add 2 6 (z % 4) w.isLt

lemma byteBits_first (x y : Fin 64) :
    byteBits ((group x y 0 0).take 1) = bits 6 x ++ bits 2 (y / 16) := by
  simp only [byteBits, group, List.take, List.flatMap_cons, List.flatMap_nil, List.append_nil,
    toNat_first, bits_first_byte]

lemma byteBits_second (x y z : Fin 64) : byteBits ((group x y z 0).take 2) =
    bits 6 x ++ bits 2 (y / 16) ++ (bits 4 (y % 16) ++ bits 4 (z / 4)) := by
  simp only [byteBits, group, List.take, List.flatMap_cons, List.flatMap_nil, List.append_nil,
    toNat_first, toNat_second, bits_first_byte, bits_second_byte]

/-- Four symbols have the bits of three bytes. -/
lemma byteBits_group (x y z w : Fin 64) :
    byteBits (group x y z w) = symbolBits [x, y, z, w] := by
  simp only [byteBits, symbolBits, group, List.flatMap_cons, List.flatMap_nil, List.append_nil,
    toNat_first, toNat_second, toNat_third, bits_first_byte, bits_second_byte, bits_third_byte,
    bits_second_symbol y, bits_third_symbol z, List.append_assoc]

/-! ### The format -/

/-- The format: the bits of the symbols are those of the bytes and zeros, of which there are fewer
than a symbol has, and padding fills up the last group. -/
def IsBase64 (a : Alphabet) (text bytes : List UInt8) : Prop :=
  ∃ xs zeros pads, text = a.symbols xs ++ List.replicate pads pad ∧
    symbolBits xs = byteBits bytes ++ List.replicate zeros false ∧
    zeros < 6 ∧ pads < 4 ∧ (xs.length + pads) % 4 = 0

/-- The bits of the symbols of each group are those of its bytes, with zeros behind them in the last
group. -/
lemma Encodes.isBase64 (h : Encodes a text bytes) : IsBase64 a text bytes := by
  induction h with
  | nil => exact ⟨[], 0, 0, rfl, rfl, by decide, by decide, by decide⟩
  | one x y h =>
    refine ⟨[x, y], 4, 2, rfl, ?_, by decide, by decide, by simp⟩
    rw [byteBits_first, ← bits_zero, ← h, List.append_assoc, ← bits_second_symbol]
    simp [symbolBits]
  | two x y z h =>
    refine ⟨[x, y, z], 2, 1, rfl, ?_, by decide, by decide, by simp⟩
    rw [byteBits_second, ← bits_zero, ← h]
    simp [symbolBits, bits_second_symbol y, bits_third_symbol z]
  | group x y z w h ih =>
    obtain ⟨xs, zeros, pads, rfl, hbits, hzeros, hpads, hgroups⟩ := ih
    refine ⟨[x, y, z, w] ++ xs, zeros, pads, rfl, ?_, hzeros, hpads, ?_⟩
    · rw [symbolBits_append, byteBits_append, byteBits_group, hbits, List.append_assoc]
    · simp only [List.length_append, List.length_cons, List.length_nil]
      omega

/-- Bytes have one text in the format. -/
lemma IsBase64.unique {text' : List UInt8} (h : IsBase64 a text bytes)
    (h' : IsBase64 a text' bytes) : text = text' := by
  obtain ⟨xs, zeros, pads, rfl, hbits, hzeros, hpads, hgroups⟩ := h
  obtain ⟨xs', zeros', pads', rfl, hbits', hzeros', hpads', hgroups'⟩ := h'
  have hlength := congrArg List.length hbits
  have hlength' := congrArg List.length hbits'
  simp only [length_symbolBits, List.length_append, length_byteBits, List.length_replicate]
    at hlength hlength'
  obtain rfl : zeros = zeros' := by omega
  obtain rfl := symbolBits_inj (hbits.trans hbits'.symm)
  obtain rfl : pads = pads' := by omega
  rfl

lemma isBase64_encodeWith (a : Alphabet) (bytes : List UInt8) :
    IsBase64 a (encodeWith a bytes) bytes := (encodes_iff.mpr rfl).isBase64

/-- Bytes are written in the format. -/
lemma isBase64_iff : IsBase64 a text bytes ↔ text = encodeWith a bytes := by
  constructor
  · intro h
    exact h.unique (isBase64_encodeWith a bytes)
  · rintro rfl
    exact isBase64_encodeWith a bytes

end PlanImport.Base64
