import Mathlib.Tactic.Common
import Mathlib.Tactic.Ring
import PlanImport.Wire.Item

/-!
# Items are read as they are written

Every integer has one shortest spelling, which the writer uses. A reader takes it off the front of
whatever follows it, and so it takes whole items. It accepts longer spellings too, so writing again
what was read can only save bytes.
-/

namespace PlanImport.Wire

/-! ### Integers of variable length -/

lemma toNat_byte {n : Nat} (h : n < 256) : (UInt8.ofNat n).toNat = n :=
  UInt8.toNat_ofNat_of_lt' h

lemma byte_lt_iff (b : UInt8) : b < 128 ↔ b.toNat < 128 := UInt8.lt_iff_toNat_lt

/-- A number is read back if so many bytes may follow the first one as it has. -/
lemma readVarintWith_varint {left n : Nat} (h : n < 2 * 128 ^ left) (rest : List UInt8) :
    readVarintWith left (varint n ++ rest) = some (n, rest) := by
  induction left generalizing n with
  | zero =>
    have hn : (UInt8.ofNat n).toNat = n := toNat_byte (by omega)
    have hlast : ¬1 < UInt8.ofNat n := by
      have : (1 : UInt8).toNat = 1 := rfl
      rw [UInt8.lt_iff_toNat_lt, hn]
      omega
    rw [varint, if_pos (by omega), List.singleton_append, readVarintWith,
      if_pos (by rw [byte_lt_iff, hn]; omega), if_neg (by simp [hlast]), hn]
  | succ left ih =>
    rw [varint]
    split_ifs with hn
    · have hb : (UInt8.ofNat n).toNat = n := toNat_byte (by omega)
      rw [List.singleton_append, readVarintWith, if_pos (by rw [byte_lt_iff, hb]; exact hn),
        if_neg (by simp), hb]
    · have hb : (UInt8.ofNat (n % 128 + 128)).toNat = n % 128 + 128 := toNat_byte (by omega)
      have hrest : n / 128 < 2 * 128 ^ left := by
        rw [Nat.pow_succ] at h
        omega
      have hsplit : n % 128 + 128 - 128 + 128 * (n / 128) = n := by omega
      rw [List.cons_append, readVarintWith, if_neg (by rw [byte_lt_iff, hb]; omega)]
      dsimp only
      rw [ih hrest, hb, Option.map_some]
      dsimp only
      rw [hsplit]

lemma readVarint_varint {n : Nat} (h : n < 2 ^ 64) (rest : List UInt8) :
    readVarint (varint n ++ rest) = some (n, rest) :=
  readVarintWith_varint (by omega) rest

/-- A byte holds seven bits of a number. -/
lemma length_varint_le_iff {n k : Nat} : (varint n).length ≤ k + 1 ↔ n < 128 ^ (k + 1) := by
  induction k generalizing n with
  | zero =>
    rw [varint]
    split_ifs with hn
    · simpa using hn
    · have : 0 < (varint (n / 128)).length := by
        rw [varint]
        split_ifs <;> simp
      simp only [List.length_cons]
      omega
  | succ k ih =>
    have hpos : 0 < 128 ^ (k + 1) := Nat.pow_pos (by omega)
    rw [varint]
    split_ifs with hn
    · rw [Nat.pow_succ]
      simp only [List.length_singleton]
      omega
    · rw [List.length_cons, Nat.add_le_add_iff_right, ih, Nat.pow_succ 128 (k + 1),
        Nat.div_lt_iff_lt_mul (by omega)]

lemma exists_length_varint (n : Nat) : ∃ k, (varint n).length = k + 1 := by
  rw [varint]
  split_ifs
  · exact ⟨0, rfl⟩
  · exact ⟨_, List.length_cons⟩

lemma length_varint_mono {a b : Nat} (h : a ≤ b) : (varint a).length ≤ (varint b).length := by
  obtain ⟨k, hk⟩ := exists_length_varint b
  rw [hk, length_varint_le_iff]
  exact Nat.lt_of_le_of_lt h (length_varint_le_iff.mp hk.le)

/-- A sum takes no more bytes than its parts. -/
lemma length_varint_add_le (a b : Nat) :
    (varint (a + b)).length ≤ (varint a).length + (varint b).length := by
  obtain ⟨j, hj⟩ := exists_length_varint a
  obtain ⟨k, hk⟩ := exists_length_varint b
  have ha := length_varint_le_iff.mp hj.le
  have hb := length_varint_le_iff.mp hk.le
  rw [hj, hk, show j + 1 + (k + 1) = j + k + 1 + 1 by ring, length_varint_le_iff]
  have hjk : 128 ^ (j + 1) ≤ 128 ^ (j + k + 1) := Nat.pow_le_pow_right (by omega) (by omega)
  have hkj : 128 ^ (k + 1) ≤ 128 ^ (j + k + 1) := Nat.pow_le_pow_right (by omega) (by omega)
  rw [Nat.pow_succ 128 (j + k + 1)]
  omega

/-- No number has a shorter spelling than the one it is written with. -/
lemma length_varint_of_readVarintWith {left n : Nat} {bytes rest : List UInt8}
    (h : readVarintWith left bytes = some (n, rest)) :
    (varint n).length + rest.length ≤ bytes.length := by
  fun_induction readVarintWith left bytes generalizing n rest with
  | case1 => cases h
  | case2 => cases h
  | case3 left b rest hb =>
    cases h
    rw [varint, if_pos ((byte_lt_iff b).mp hb)]
    simp [Nat.add_comm]
  | case4 => cases h
  | case5 b rest hb left ih =>
    simp only [Option.map_eq_some_iff, Prod.exists, Prod.mk.injEq] at h
    obtain ⟨high, tail, hr, rfl, rfl⟩ := h
    have := ih hr
    have hlow : b.toNat - 128 < 128 := by
      have := b.toNat_lt
      omega
    rw [varint]
    split_ifs with hn
    · obtain ⟨k, hk⟩ := exists_length_varint high
      simp only [List.length_cons, List.length_nil]
      omega
    · have hdiv : (b.toNat - 128 + 128 * high) / 128 = high := by omega
      rw [hdiv]
      simp only [List.length_cons]
      omega

/-! ### Integers of fixed length -/

@[simp] lemma length_fixed (size n : Nat) : (fixed size n).length = size := by
  induction size generalizing n with
  | zero => rfl
  | succ size ih => rw [fixed, List.length_cons, ih]

/-- A number of fixed length is read in front of any rest. -/
lemma readFixed_fixed {size n : Nat} (h : n < 256 ^ size) (rest : List UInt8) :
    readFixed size (fixed size n ++ rest) = some (n, rest) := by
  induction size generalizing n with
  | zero =>
    rw [Nat.pow_zero, Nat.lt_one_iff] at h
    rw [h, fixed, List.nil_append, readFixed]
  | succ size ih =>
    have hb : (UInt8.ofNat (n % 256)).toNat = n % 256 := toNat_byte (by omega)
    have hrest : n / 256 < 256 ^ size := by
      rw [Nat.pow_succ] at h
      omega
    rw [fixed, List.cons_append, readFixed, ih hrest, hb, Option.map_some]
    dsimp only
    rw [Nat.mod_add_div]

/-- A number of fixed length takes its bytes and no more. -/
lemma length_of_readFixed {size n : Nat} {bytes rest : List UInt8}
    (h : readFixed size bytes = some (n, rest)) : size + rest.length = bytes.length := by
  fun_induction readFixed size bytes generalizing n rest with
  | case1 =>
    cases h
    simp
  | case2 => cases h
  | case3 size b bytes ih =>
    simp only [Option.map_eq_some_iff, Prod.exists, Prod.mk.injEq] at h
    obtain ⟨high, tail, hr, rfl, rfl⟩ := h
    have := ih hr
    simp only [List.length_cons]
    omega

/-! ### Items -/

/-- Whether a value has a spelling that is accepted. -/
def Payload.Fits : Payload → Prop
  | varint n => n < 2 ^ 64
  | fixed64 n => n < 2 ^ 64
  | bytes bs => bs.length < 2 ^ 64
  | fixed32 n => n < 2 ^ 32

/-- The numbers that fields can have. -/
def IsFieldNumber (number : Nat) : Prop := 0 < number ∧ number < 2 ^ 29

instance (number : Nat) : Decidable (IsFieldNumber number) := by
  unfold IsFieldNumber
  infer_instance

@[simp] lemma readBytes_append (bs rest : List UInt8) :
    readBytes bs.length (bs ++ rest) = some (bs, rest) := by
  simp [readBytes]

/-- A value is read in front of any rest. The cases are the wire types of its key. -/
lemma readItem_encode {number : Nat} {payload : Payload} (hnumber : IsFieldNumber number)
    (hfits : payload.Fits) (rest : List UInt8) :
    readItem (payload.encode number ++ rest) = some (.value number payload, rest) := by
  obtain ⟨hpos, hlt⟩ := hnumber
  have key (kind : Nat) (hk : kind < 8) (tail : List UInt8) :
      readVarint (varint (number * 8 + kind) ++ tail) = some (number * 8 + kind, tail) ∧
        (number * 8 + kind) / 8 = number ∧ (number * 8 + kind) % 8 = kind ∧
        ¬(0x100000000 ≤ number * 8 + kind ∨ number = 0) :=
    ⟨readVarint_varint (by omega) tail, by omega, by omega, by omega⟩
  cases payload with
  | varint n =>
    obtain ⟨hread, hdiv, hmod, hok⟩ := key 0 (by omega) (varint n ++ rest)
    rw [Nat.add_zero] at hread hdiv hmod hok
    rw [Payload.encode, List.append_assoc, readItem, hread]
    simp only [hdiv, hmod, if_neg hok, readVarint_varint hfits, Option.map_some]
  | fixed64 n =>
    obtain ⟨hread, hdiv, hmod, hok⟩ := key 1 (by omega) (fixed 8 n ++ rest)
    rw [Payload.encode, List.append_assoc, readItem, hread]
    simp only [hdiv, hmod, if_neg hok, @readFixed_fixed 8 _ hfits, Option.map_some]
  | bytes bs =>
    obtain ⟨hread, hdiv, hmod, hok⟩ := key 2 (by omega) (varint bs.length ++ (bs ++ rest))
    rw [Payload.encode, List.append_assoc, List.append_assoc, readItem, hread]
    simp only [hdiv, hmod, if_neg hok, readVarint_varint hfits, readBytes_append, Option.map_some]
  | fixed32 n =>
    obtain ⟨hread, hdiv, hmod, hok⟩ := key 5 (by omega) (fixed 4 n ++ rest)
    rw [Payload.encode, List.append_assoc, readItem, hread]
    simp only [hdiv, hmod, if_neg hok, @readFixed_fixed 4 _ hfits, Option.map_some]

/-- The number of bytes that a value is written with. Marks of groups are not counted. -/
def Item.length : Item → Nat
  | value number payload => (payload.encode number).length
  | _ => 0

/-- An item that is written again takes no more bytes than it was read from. -/
lemma length_of_readItem {bytes rest : List UInt8} {item : Item}
    (h : readItem bytes = some (item, rest)) : item.length + rest.length ≤ bytes.length := by
  unfold readItem at h
  split at h
  · cases h
  · next key tail hk =>
    have hkey := length_varint_of_readVarintWith hk
    dsimp only at h
    split_ifs at h
    -- One case for each wire type, in the order of their numbers; the number is put back into the
    -- key so that its length is that of the key that was read.
    split at h
    · next hkind =>
      obtain ⟨⟨n, t⟩, hr, h⟩ := Option.map_eq_some_iff.mp h
      cases h
      have := length_varint_of_readVarintWith hr
      rw [Item.length, Payload.encode, show key / 8 * 8 = key by omega, List.length_append]
      dsimp only
      omega
    · next hkind =>
      obtain ⟨⟨n, t⟩, hr, h⟩ := Option.map_eq_some_iff.mp h
      cases h
      have := length_of_readFixed hr
      rw [Item.length, Payload.encode, show key / 8 * 8 + 1 = key by omega, List.length_append,
        length_fixed]
      dsimp only
      omega
    · next hkind =>
      split at h
      · cases h
      · next size tail' hsize =>
        have hlength := length_varint_of_readVarintWith hsize
        obtain ⟨⟨bs, t⟩, hr, h⟩ := Option.map_eq_some_iff.mp h
        cases h
        unfold readBytes at hr
        split_ifs at hr with hshort
        cases hr
        rw [Item.length, Payload.encode, show key / 8 * 8 + 2 = key by omega,
          List.length_append, List.length_append, List.length_take, Nat.min_eq_left (by omega),
          List.length_drop]
        omega
    · cases h
      simp only [Item.length]
      omega
    · cases h
      simp only [Item.length]
      omega
    · next hkind =>
      obtain ⟨⟨n, t⟩, hr, h⟩ := Option.map_eq_some_iff.mp h
      cases h
      have := length_of_readFixed hr
      rw [Item.length, Payload.encode, show key / 8 * 8 + 5 = key by omega, List.length_append,
        length_fixed]
      dsimp only
      omega
    · cases h

/-! ### Bodies -/

@[simp] lemma readItems_nil : readItems [] = some [] := by
  rw [readItems]
  rfl

/-- The items of a body are its first one and those of the rest, which is a shorter body. -/
lemma readItems_of_readItem {bytes rest : List UInt8} {item : Item}
    (h : readItem bytes = some (item, rest)) :
    readItems bytes = (readItems rest).map (item :: ·) := by
  have hne : bytes.isEmpty = false := by
    have := length_readItem h
    cases bytes with
    | nil => exact absurd this (by simp)
    | cons => rfl
  rw [readItems, hne, if_neg Bool.false_ne_true]
  split
  · next hnone =>
    rw [h] at hnone
    cases hnone
  · next hsome =>
    rw [h] at hsome
    cases hsome
    rfl

/-- The items of a body that is written are those that were to be written. -/
lemma readItems_flatMap_encode {items : List (Nat × Payload)}
    (h : ∀ item ∈ items, IsFieldNumber item.1 ∧ item.2.Fits) :
    readItems (items.flatMap fun item => item.2.encode item.1) =
      some (items.map fun item => .value item.1 item.2) := by
  induction items with
  | nil => simp
  | cons item items ih =>
    obtain ⟨hitem, hitems⟩ := List.forall_mem_cons.mp h
    rw [List.flatMap_cons, readItems_of_readItem (readItem_encode hitem.1 hitem.2 _), ih hitems]
    rfl

/-- Items take at most the bytes that they are read from. -/
lemma sum_length_of_readItems {bytes : List UInt8} {items : List Item}
    (h : readItems bytes = some items) : (items.map Item.length).sum ≤ bytes.length := by
  fun_induction readItems bytes generalizing items with
  | case1 =>
    cases h
    simp
  | case2 => cases h
  | case3 bytes hne item rest hitem ih =>
    obtain ⟨items, hitems, rfl⟩ := Option.map_eq_some_iff.mp h
    have := ih hitems
    have := length_of_readItem hitem
    simp only [List.map_cons, List.sum_cons]
    omega

end PlanImport.Wire
