import PlanImport.Proofs.Binary.Scalar
import PlanImport.Proofs.Text.Base64Bits

/-!
# Base64 in two alphabets

The standard and the URL-safe alphabet share all symbols but two, and no symbol has different
numbers in them. So a string that is a text in both is the text of the same bytes, and it cannot
matter which alphabet is tried first.
-/

namespace PlanImport

namespace Base64

variable {a a' : Alphabet} {bytes bytes' : List UInt8} {s : String}

/-! ### Symbols of two alphabets -/

/-- No symbol has different numbers in the two alphabets. -/
lemma symbol_inj {x y : Fin 64} (h : a.symbol x = a'.symbol y) : x = y := by
  have hnumber (a : Alphabet) (x : Fin 64) : ((Alphabet.standard.number? (a.symbol x)).or
      (Alphabet.urlSafe.number? (a.symbol x))) = some x.val := by
    revert x
    cases a <;> decide
  have hx := hnumber a x
  rw [h, hnumber a' y] at hx
  exact Fin.ext (Option.some.inj hx).symm

/-- No symbol is the pad, so the pads of a text begin where the symbols end. -/
lemma symbols_append_replicate_inj {xs ys : List (Fin 64)} {m n : Nat}
    (h : a.symbols xs ++ List.replicate m pad = a'.symbols ys ++ List.replicate n pad) :
    xs = ys := by
  induction xs generalizing ys with
  | nil =>
    cases ys with
    | nil => rfl
    | cons y ys =>
      have hy : a'.symbol y ∈ List.replicate m pad := by
        rw [Alphabet.symbols_nil, List.nil_append] at h
        rw [h]
        exact List.mem_cons_self
      exact absurd (List.eq_of_mem_replicate hy) (a'.symbol_ne_pad y)
  | cons x xs ih =>
    cases ys with
    | nil =>
      have hx : a.symbol x ∈ List.replicate n pad := by
        rw [Alphabet.symbols_nil, List.nil_append] at h
        rw [← h]
        exact List.mem_cons_self
      exact absurd (List.eq_of_mem_replicate hx) (a.symbol_ne_pad x)
    | cons y ys =>
      obtain ⟨hhead, htail⟩ := List.cons.inj h
      rw [symbol_inj hhead, ih htail]

/-- Whichever alphabet its symbols are taken from, a text has the bits of its bytes and zeros. -/
lemma exists_zeros {xs : List (Fin 64)} {pads : Nat}
    (h : a.symbols xs ++ List.replicate pads pad = encodeWith a' bytes) :
    ∃ zeros < 6, symbolBits xs = byteBits bytes ++ List.replicate zeros false := by
  obtain ⟨ys, zeros, pads', htext, hbits, hzeros, -⟩ := isBase64_iff.mpr h
  obtain rfl := symbols_append_replicate_inj htext
  exact ⟨zeros, hzeros, hbits⟩

/-- The bits after those of the last whole byte are zeros. -/
lemma drop_symbolBits {xs : List (Fin 64)} {zeros : Nat} (hzeros : zeros < 6)
    (h : symbolBits xs = byteBits bytes ++ List.replicate zeros false) :
    (symbolBits xs).drop ((symbolBits xs).length / 8 * 8) = List.replicate zeros false := by
  have hlength : (symbolBits xs).length / 8 * 8 = (byteBits bytes).length := by
    rw [h, List.length_append, length_byteBits, List.length_replicate]
    omega
  rw [hlength, h, List.drop_left]

/-- A text is that of no other bytes, in either alphabet. -/
lemma encodeWith_inj (h : encodeWith a bytes = encodeWith a' bytes') : bytes = bytes' := by
  obtain ⟨xs, zeros, pads, htext, hbits, hzeros, -⟩ := isBase64_encodeWith a bytes
  obtain ⟨zeros', hzeros', hbits'⟩ := exists_zeros (htext.symm.trans h)
  have hlength := congrArg List.length (hbits.symm.trans hbits')
  simp only [List.length_append, length_byteBits, List.length_replicate] at hlength
  obtain rfl : zeros = zeros' := by omega
  exact byteBits_inj (List.append_cancel_right (hbits.symm.trans hbits'))

/-! ### Strings of the texts -/

lemma toList_toUTF8 (s : String) : s.toUTF8.toList = s.toList.flatMap String.utf8EncodeChar := by
  change s.toByteArray.toList = _
  rw [toList_byteArray, ← String.utf8Encode_toList, List.utf8Encode, List.toList_data_toByteArray]

lemma toList_toUTF8_inj {s t : String} : s.toUTF8.toList = t.toUTF8.toList ↔ s = t := by
  rw [toList_byteArray, toList_byteArray, Array.toList_inj, ← ByteArray.ext_iff]
  exact String.toByteArray_inj

/-- A character below 128 is one byte in UTF-8. -/
lemma utf8EncodeChar_ofNat {b : UInt8} (h : b.toNat < 128) :
    String.utf8EncodeChar (Char.ofNat b.toNat) = [b] := by
  have hall : ∀ n < 128, String.utf8EncodeChar (Char.ofNat n) = [UInt8.ofNat n] := by
    decide +kernel
  rw [hall _ h, UInt8.ofNat_toNat]

/-- A text consists of symbols and pads. -/
lemma mem_encodeWith {b : UInt8} (h : b ∈ encodeWith a bytes) :
    b = pad ∨ ∃ x : Fin 64, b = a.symbol x := by
  obtain ⟨xs, zeros, pads, htext, -⟩ := isBase64_encodeWith a bytes
  rw [htext, List.mem_append] at h
  rcases h with h | h
  · obtain ⟨x, -, rfl⟩ := List.mem_map.mp h
    exact .inr ⟨x, rfl⟩
  · exact .inl (List.eq_of_mem_replicate h)

lemma Alphabet.symbol_lt (a : Alphabet) (x : Fin 64) : (a.symbol x).toNat < 128 := by
  revert x
  cases a <;> decide

lemma lt_of_mem_encodeWith {b : UInt8} (h : b ∈ encodeWith a bytes) : b.toNat < 128 := by
  rcases mem_encodeWith h with rfl | ⟨x, rfl⟩
  · decide
  · exact a.symbol_lt x

/-- The text of bytes in an alphabet. -/
def Alphabet.text (a : Alphabet) (bytes : List UInt8) : String :=
  .ofList ((encodeWith a bytes).map fun b => Char.ofNat b.toNat)

@[simp] lemma toList_toUTF8_text (a : Alphabet) (bytes : List UInt8) :
    (a.text bytes).toUTF8.toList = encodeWith a bytes := by
  rw [toList_toUTF8, Alphabet.text, String.toList_ofList, List.flatMap_map]
  calc (encodeWith a bytes).flatMap (fun b => String.utf8EncodeChar (Char.ofNat b.toNat))
    _ = (encodeWith a bytes).flatMap (fun b => [b]) :=
      List.flatMap_congr fun b hb => utf8EncodeChar_ofNat (lt_of_mem_encodeWith hb)
    _ = encodeWith a bytes := List.flatMap_singleton' _

lemma eq_text_iff : s = a.text bytes ↔ s.toUTF8.toList = encodeWith a bytes := by
  rw [← toList_toUTF8_text, toList_toUTF8_inj]

lemma length_text_mod (a : Alphabet) (bytes : List UInt8) : (a.text bytes).length % 4 = 0 := by
  rw [Alphabet.text, String.length_ofList, List.length_map]
  exact (encodes_iff.mpr rfl).length_mod

/-- The symbols that only one alphabet has. -/
def Alphabet.own : Alphabet → List Char
  | standard => ['+', '/']
  | urlSafe => ['-', '_']

lemma eq_of_symbol_mem_own {x : Fin 64} (h : Char.ofNat (a'.symbol x).toNat ∈ a.own) :
    a' = a := by
  revert x
  cases a <;> cases a' <;> decide

/-- A symbol that only one alphabet has is in texts in this alphabet only. -/
lemma eq_of_mem_own {c : Char} (hown : c ∈ a.own) (h : c ∈ (a'.text bytes).toList) : a' = a := by
  rw [Alphabet.text, String.toList_ofList] at h
  obtain ⟨b, hb, rfl⟩ := List.mem_map.mp h
  rcases mem_encodeWith hb with rfl | ⟨x, rfl⟩
  · cases a <;> exact absurd hown (by decide)
  · exact eq_of_symbol_mem_own hown

/-! ### Reading in both alphabets -/

/-- The bytes that a text encodes in one of two alphabets, of which the first is tried first. -/
def decodeInOrder (first second : Alphabet) (s : String) : Except Error (List UInt8) :=
  match decodeWith first s.toUTF8.toList with
  | .ok bytes => .ok bytes
  | .error _ => decodeWith second s.toUTF8.toList

lemma decode_eq_decodeInOrder (s : String) : decode s = decodeInOrder .standard .urlSafe s := rfl

/-- Either order reads the texts in both alphabets. -/
lemma decodeInOrder_eq_ok_iff : decodeInOrder a a' s = .ok bytes ↔
    s = a.text bytes ∨ s = a'.text bytes := by
  rw [decodeInOrder, eq_text_iff, eq_text_iff, ← decodeWith_eq_ok_iff, ← decodeWith_eq_ok_iff]
  cases h : decodeWith a s.toUTF8.toList with
  | ok bytes' =>
    simp only [Except.ok.injEq]
    constructor
    · exact .inl
    · rintro (rfl | h')
      · rfl
      · rw [decodeWith_eq_ok_iff] at h h'
        exact encodeWith_inj (h.symm.trans h')
  | error e => simp

/-- A text in both alphabets has the same bytes in both of them, so their order matters only for
errors. -/
lemma toOption_decodeInOrder_comm (a a' : Alphabet) (s : String) :
    (decodeInOrder a a' s).toOption = (decodeInOrder a' a s).toOption := by
  have hread (x : Except Error (List UInt8)) (bytes : List UInt8) :
      x.toOption = some bytes ↔ x = .ok bytes := by
    cases x <;> simp [Except.toOption]
  apply Option.ext
  intro bytes
  rw [hread, hread, decodeInOrder_eq_ok_iff, decodeInOrder_eq_ok_iff, or_comm]

/-- What is read in either alphabet is what was written in one of them. -/
lemma decode_eq_ok_iff : decode s = .ok bytes ↔ ∃ a : Alphabet, s = a.text bytes := by
  rw [decode_eq_decodeInOrder, decodeInOrder_eq_ok_iff]
  constructor
  · rintro (h | h)
    · exact ⟨_, h⟩
    · exact ⟨_, h⟩
  · rintro ⟨_ | _, h⟩
    · exact .inl h
    · exact .inr h

end Base64

end PlanImport
