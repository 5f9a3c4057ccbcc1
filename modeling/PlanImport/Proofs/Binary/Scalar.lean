import PlanImport.Proofs.Message.Typed

/-!
# Scalars on the wire

A scalar is read back from the value that it is written as. A value of the wire may hold more than
its type, of which the low bits count; a scalar that is read takes at most twice as many bytes
when it is written again, since the sign of an integer is written out to 64 bits.
-/

namespace PlanImport

open Schema Wire

/-! ### Strings -/

/-- The library's loop over an array of bytes puts those from `i` on behind what it has gathered. -/
lemma toList_loop (bs : ByteArray) (i : Nat) (r : List UInt8) :
    ByteArray.toList.loop bs i r = r.reverse ++ bs.data.toList.drop i := by
  fun_induction ByteArray.toList.loop bs i r with
  | case1 i r h ih =>
    have hi : i < bs.data.toList.length := h
    have hget : bs.get! i = bs.data.toList[i] := getElem!_pos bs.data i h
    rw [ih, List.reverse_cons, List.append_assoc, List.singleton_append,
      List.drop_eq_getElem_cons hi, hget]
  | case2 i r h =>
    have hi : bs.data.toList.length ≤ i := Nat.le_of_not_lt h
    rw [List.drop_of_length_le hi, List.append_nil]

lemma toList_byteArray (bs : ByteArray) : bs.toList = bs.data.toList := toList_loop bs 0 []

/-- Bytes are those of a string exactly if they are read as it. -/
lemma fromUTF8?_eq_some_iff {bs : List UInt8} {s : String} :
    String.fromUTF8? ⟨bs.toArray⟩ = some s ↔ s.toUTF8.toList = bs := by
  rw [toList_byteArray, String.fromUTF8?]
  constructor
  · intro h
    split_ifs at h with hvalid
    cases h
    rfl
  · rintro rfl
    exact dif_pos s.isValidUTF8

/-! ### Reading what is written -/

namespace Scalar

lemma ofSigned_lt (n : Int) : ofSigned n < 2 ^ 64 := by
  rw [ofSigned]
  omega

lemma ofInt32_ofSigned (n : Int32) : Int32.ofInt (ofSigned n.toInt) = n := by
  apply Int32.toInt.inj
  have hlow := n.le_toInt
  have hhigh := n.toInt_lt
  rw [ofSigned, Int32.toInt_ofInt, Int.toNat_of_nonneg (by omega), Int.bmod_def, Int32.size]
  omega

lemma ofInt64_ofSigned (n : Int64) : Int64.ofInt (ofSigned n.toInt) = n := by
  apply Int64.toInt.inj
  have hlow := n.le_toInt
  have hhigh := n.toInt_lt
  rw [ofSigned, Int64.toInt_ofInt, Int.toNat_of_nonneg (by omega), Int.bmod_def, Int64.size]
  omega

variable {s : Scalar} {type : ScalarType} {payload : Payload}

/-- A scalar is read back from what it is written as. -/
lemma ofPayload?_payload (h : s.HasType type) : ofPayload? type s.payload = some s := by
  cases s with
  | bool b =>
    cases h
    cases b <;> rfl
  | int32 n =>
    cases h
    rw [Scalar.payload, ofPayload?, ofInt32_ofSigned]
  | int64 n =>
    cases h
    rw [Scalar.payload, ofPayload?, ofInt64_ofSigned]
  | uint32 n =>
    cases h
    rw [Scalar.payload, ofPayload?, UInt32.ofNat_toNat]
  | float bits =>
    cases h
    rw [Scalar.payload, ofPayload?, UInt32.ofNat_toNat]
  | double bits =>
    cases h
    rw [Scalar.payload, ofPayload?, UInt64.ofNat_toNat]
  | string s =>
    cases h
    rw [Scalar.payload, ofPayload?, fromUTF8?_eq_some_iff.mpr rfl]
    rfl
  | bytes bs =>
    cases h
    rfl
  | enumeration n =>
    obtain ⟨e, rfl⟩ := h
    rw [Scalar.payload, ofPayload?, ofInt32_ofSigned]

/-! ### What is read -/

/-- Whatever the wire holds, a reader for a type reads a value of this type. -/
lemma hasType_of_ofPayload? (h : ofPayload? type payload = some s) : s.HasType type := by
  unfold ofPayload? at h
  split at h
  case h_7 =>
    obtain ⟨_, -, rfl⟩ := Option.map_eq_some_iff.mp h
    rfl
  case h_9 =>
    cases h
    exact ⟨_, rfl⟩
  case h_10 => cases h
  all_goals
    cases h
    rfl

lemma length_varint_le_ten {n : Nat} (h : n < 2 ^ 64) : (varint n).length ≤ 10 := by
  rw [length_varint_le_iff]
  omega

/-- Of a number the low 32 bits are read as an integer, which may be negative. -/
lemma length_varint_ofInt32_le (n : Nat) :
    (varint (ofSigned (Int32.ofInt n).toInt)).length ≤ 2 * (varint n).length := by
  by_cases hn : n < 2 ^ 31
  · have : ofSigned (Int32.ofInt n).toInt = n := by
      rw [ofSigned, Int32.toInt_ofInt, Int.bmod_def, Int32.size]
      omega
    rw [this]
    omega
  · have hlong : ¬(varint n).length ≤ 4 := by
      rw [length_varint_le_iff]
      omega
    have := length_varint_le_ten (ofSigned_lt (Int32.ofInt n).toInt)
    omega

lemma length_varint_ofInt64_le (n : Nat) :
    (varint (ofSigned (Int64.ofInt n).toInt)).length ≤ (varint n).length := by
  apply length_varint_mono
  rw [ofSigned, Int64.toInt_ofInt, Int.bmod_def, Int64.size]
  omega

lemma length_encode_varint_le (number : Nat) {n k : Nat}
    (h : (varint n).length ≤ 2 * (varint k).length) :
    ((Payload.varint n).encode number).length ≤ 2 * ((Payload.varint k).encode number).length := by
  simp only [Payload.encode, List.length_append]
  omega

/-- What is read takes at most twice as many bytes when it is written again. -/
lemma length_payload_of_ofPayload? (number : Nat) (h : ofPayload? type payload = some s) :
    (s.payload.encode number).length ≤ 2 * (payload.encode number).length := by
  -- One case for each type. Only a number of 32 bits that turns out negative gets longer.
  unfold ofPayload? at h
  split at h
  case h_1 n =>
    cases h
    have hone : (varint (if decide (n ≠ 0) then 1 else 0)).length ≤ 1 := by
      rw [length_varint_le_iff]
      split_ifs <;> simp
    obtain ⟨k, hk⟩ := exists_length_varint n
    exact length_encode_varint_le number (by omega)
  case h_2 n =>
    cases h
    exact length_encode_varint_le number (length_varint_ofInt32_le n)
  case h_3 n =>
    cases h
    have := length_varint_ofInt64_le n
    exact length_encode_varint_le number (by omega)
  case h_4 n =>
    cases h
    have hmod : (varint (UInt32.ofNat n).toNat).length ≤ (varint n).length := by
      apply length_varint_mono
      rw [UInt32.toNat_ofNat']
      exact Nat.mod_le n _
    exact length_encode_varint_le number (by omega)
  case h_5 | h_6 =>
    cases h
    simp only [Scalar.payload, Payload.encode, List.length_append, length_fixed]
    omega
  case h_7 bs =>
    obtain ⟨text, htext, rfl⟩ := Option.map_eq_some_iff.mp h
    rw [Scalar.payload, fromUTF8?_eq_some_iff.mp htext]
    omega
  case h_8 =>
    cases h
    exact Nat.le_mul_of_pos_left _ (by omega)
  case h_9 n =>
    cases h
    exact length_encode_varint_le number (length_varint_ofInt32_le n)
  case h_10 => cases h

end Scalar

end PlanImport
