import Mathlib.Data.Nat.Digits.Lemmas
import PlanImport.Proofs.Lowering.Constant

/-!
# Decimal literals

A decimal literal has a value exactly if its bytes, its precision and its scale are those of a
decimal and its number is in the range of the integer type that the precision selects. That type is
the narrowest one with all numbers of so many digits, and a type of the same precision and scale is
accepted under the same condition.
-/

namespace PlanImport

open Engine

/-! ### Two's complement -/

/-- The integer whose two's complement bytes are given, the least significant one first: the number
of which they are the digits, or a negative one with these low bytes if the topmost bit is set. -/
def twosComplement (bytes : List UInt8) : Int :=
  let n : Nat := Nat.ofDigits 256 (bytes.map UInt8.toNat)
  if 2 * n < 256 ^ bytes.length then n else (n : Int) - 256 ^ bytes.length

/-- Whether an integer is one of the signed integers of so many bits. -/
def FitsBits (bits : Nat) (n : Int) : Prop := -2 ^ (bits - 1) ≤ n ∧ n < 2 ^ (bits - 1)

lemma ofDigits_bytes_lt (bytes : List UInt8) :
    Nat.ofDigits 256 (bytes.map UInt8.toNat) < 256 ^ bytes.length := by
  have h := Nat.ofDigits_lt_base_pow_length (b := 256) (l := bytes.map UInt8.toNat) (by decide)
  rw [List.length_map, List.forall_mem_map] at h
  exact h fun byte _ => byte.toNat_lt

/-- Sixteen bytes are one integer of 128 bits, so nothing is lost. -/
lemma Int128.toInt_ofBytes {bytes : List UInt8} (h : bytes.length = 16) :
    (Int128.ofBytes bytes).toInt = twosComplement bytes := by
  have hdigits : bytes.foldr (fun b acc => b.toNat + 256 * acc) 0 =
      Nat.ofDigits 256 (bytes.map UInt8.toNat) := by
    rw [Nat.ofDigits_eq_foldr, List.foldr_map]
    rfl
  have hlt := ofDigits_bytes_lt bytes
  rw [h] at hlt
  unfold Int128.ofBytes twosComplement
  dsimp only
  rw [hdigits, h, Int.bmod_def]
  generalize Nat.ofDigits 256 (bytes.map UInt8.toNat) = n at hlt
  norm_num at hlt ⊢
  split_ifs <;> omega

/-- Every integer of 128 bits has sixteen bytes. -/
lemma exists_twosComplement {n : Int} (h : FitsBits 128 n) :
    ∃ bytes, bytes.length = 16 ∧ twosComplement bytes = n := by
  have hlt : (n % 256 ^ 16).toNat < 256 ^ 16 := by
    have := Int.emod_lt_of_pos n (b := 256 ^ 16) (by norm_num)
    omega
  have hlength := Nat.length_digitsAppend (b := 256) (by decide) 16 hlt
  have hbytes : ((Nat.digitsAppend 256 16 (n % 256 ^ 16).toNat).map UInt8.ofNat).map UInt8.toNat =
      Nat.digitsAppend 256 16 (n % 256 ^ 16).toNat := by
    rw [List.map_map]
    refine (List.map_congr_left fun digit hdigit => ?_).trans (List.map_id _)
    exact UInt8.toNat_ofNat_of_lt' (Nat.lt_of_mem_digitsAppend (by decide) 16 digit hdigit)
  have hdigits := (Nat.setInvOn_digitsAppend_ofDigits (b := 256) (by decide) 16).2 hlt
  refine ⟨(Nat.digitsAppend 256 16 (n % 256 ^ 16).toNat).map UInt8.ofNat, ?_, ?_⟩
  · rw [List.length_map, hlength]
  · unfold twosComplement
    rw [hbytes, hdigits, List.length_map, hlength]
    obtain ⟨hlower, hupper⟩ := h
    norm_num at hlower hupper ⊢
    split_ifs <;> omega

namespace Engine.SizedInt

/-! ### Integer types of decimals -/

def bits : SizedInt → Nat
  | int8 _ => 8
  | int16 _ => 16
  | int32 _ => 32
  | int64 _ => 64
  | int128 _ => 128

/-- The number of bits of the integer type that a precision selects. -/
def bitsFor (precision : Nat) : Nat :=
  if precision ≤ 2 then 8 else if precision ≤ 4 then 16 else if precision ≤ 9 then 32
  else if precision ≤ 18 then 64 else 128

/-- The integer type and the number are all there is to a stored value. -/
lemma ext {a b : SizedInt} (hbits : a.bits = b.bits) (hvalue : a.toInt = b.toInt) : a = b := by
  cases a <;> cases b <;> simp only [bits] at hbits <;> try contradiction
  · exact congrArg int8 (Int8.toInt_inj.mp hvalue)
  · exact congrArg int16 (Int16.toInt_inj.mp hvalue)
  · exact congrArg int32 (Int32.toInt_inj.mp hvalue)
  · exact congrArg int64 (Int64.toInt_inj.mp hvalue)
  · exact congrArg int128 (Int128.ext hvalue)

section OfWidth

variable {n : Int} {value stored : SizedInt} {bits : Nat}

lemma some_eq_some_iff (hfits : FitsBits bits n) (hbits : value.bits = bits)
    (hvalue : value.toInt = n) :
    some value = some stored ↔ FitsBits bits n ∧ stored.bits = bits ∧ stored.toInt = n := by
  constructor
  · intro h
    cases h
    exact ⟨hfits, hbits, hvalue⟩
  · rintro ⟨-, hbits', hvalue'⟩
    rw [ext (hbits.trans hbits'.symm) (hvalue.trans hvalue'.symm)]

/-- One tier of storage: the test on its range, and what is stored in it. -/
lemma ite_fits_eq_some_iff {half : Int} (hhalf : half = 2 ^ (bits - 1)) (hbits : value.bits = bits)
    (hvalue : FitsBits bits n → value.toInt = n) :
    (if fits half n then some value else none) = some stored ↔
      FitsBits bits n ∧ stored.bits = bits ∧ stored.toInt = n := by
  have hfits : fits half n = true ↔ FitsBits bits n := by simp [fits, FitsBits, hhalf]
  by_cases h : FitsBits bits n
  · rw [if_pos (hfits.mpr h), some_eq_some_iff h hbits (hvalue h)]
  · rw [if_neg (hfits.not.mpr h)]
    simp [h]

end OfWidth

/-- A number is stored in the integer type that the width selects, if it is in its range. -/
lemma ofWidth?_eq_some_iff {n : Int128} {width : UInt8} {stored : SizedInt} :
    ofWidth? n width = some stored ↔ FitsBits (bitsFor width.toNat) n.toInt ∧
      stored.bits = bitsFor width.toNat ∧ stored.toInt = n.toInt := by
  unfold ofWidth? bitsFor
  simp only [UInt8.le_iff_toNat_le, UInt8.reduceToNat]
  split
  · exact ite_fits_eq_some_iff (by norm_num) rfl fun h => Int8.toInt_ofInt_of_le h.1 h.2
  split
  · exact ite_fits_eq_some_iff (by norm_num) rfl fun h => Int16.toInt_ofInt_of_le h.1 h.2
  split
  · exact ite_fits_eq_some_iff (by norm_num) rfl fun h => Int32.toInt_ofInt_of_le h.1 h.2
  split
  · exact ite_fits_eq_some_iff (by norm_num) rfl fun h => Int64.toInt_ofInt_of_le h.1 h.2
  · exact some_eq_some_iff ⟨n.lower, n.upper⟩ rfl rfl

/-- Each tier has all integers of its bits. -/
lemma exists_of_fitsBits {precision : Nat} {n : Int} (h : FitsBits (bitsFor precision) n) :
    ∃ stored : SizedInt, stored.bits = bitsFor precision ∧ stored.toInt = n := by
  unfold bitsFor at h ⊢
  split_ifs at h ⊢
  · exact ⟨int8 (.ofInt n), rfl, Int8.toInt_ofInt_of_le h.1 h.2⟩
  · exact ⟨int16 (.ofInt n), rfl, Int16.toInt_ofInt_of_le h.1 h.2⟩
  · exact ⟨int32 (.ofInt n), rfl, Int32.toInt_ofInt_of_le h.1 h.2⟩
  · exact ⟨int64 (.ofInt n), rfl, Int64.toInt_ofInt_of_le h.1 h.2⟩
  · exact ⟨int128 ⟨n, h.1, h.2⟩, rfl, rfl⟩

/-- All numbers of as many digits as the precision says are in the range of the type. -/
lemma fitsBits_of_lt_pow {precision : Nat} {n : Int} (hp : precision ≤ 38)
    (hn : n.natAbs < 10 ^ precision) : FitsBits (bitsFor precision) n := by
  have hle : 10 ^ precision ≤ 2 ^ (bitsFor precision - 1) := by
    unfold bitsFor
    split_ifs with h2 h4 h9 h18
    · exact (Nat.pow_le_pow_right (by decide) h2).trans (by norm_num)
    · exact (Nat.pow_le_pow_right (by decide) h4).trans (by norm_num)
    · exact (Nat.pow_le_pow_right (by decide) h9).trans (by norm_num)
    · exact (Nat.pow_le_pow_right (by decide) h18).trans (by norm_num)
    · exact (Nat.pow_le_pow_right (by decide) hp).trans (by norm_num)
  have hlt : (n.natAbs : Int) < 2 ^ (bitsFor precision - 1) := by
    exact_mod_cast hn.trans_le hle
  exact ⟨by omega, by omega⟩

/-- No narrower type has all of them in its range. -/
lemma exists_not_fitsBits {precision bits : Nat} (hbits : bits ∈ [8, 16, 32, 64, 128])
    (h : bits < bitsFor precision) :
    ∃ n : Int, n.natAbs < 10 ^ precision ∧ ¬ FitsBits bits n := by
  have hpow : ∀ digits half, digits ≤ precision → bits ≤ half → 2 ^ (half - 1) < 10 ^ digits →
      2 ^ (bits - 1) < 10 ^ precision := by
    intro digits half hdigits hhalf hlt
    calc 2 ^ (bits - 1)
      _ ≤ 2 ^ (half - 1) := Nat.pow_le_pow_right (by decide) (Nat.sub_le_sub_right hhalf 1)
      _ < 10 ^ digits := hlt
      _ ≤ 10 ^ precision := Nat.pow_le_pow_right (by decide) hdigits
  have hlt : 2 ^ (bits - 1) < 10 ^ precision := by
    simp only [List.mem_cons, List.not_mem_nil, or_false] at hbits
    unfold bitsFor at h
    split_ifs at h
    · omega
    · exact hpow 3 8 (by omega) (by omega) (by norm_num)
    · exact hpow 5 16 (by omega) (by omega) (by norm_num)
    · exact hpow 10 32 (by omega) (by omega) (by norm_num)
    · exact hpow 19 64 (by omega) (by omega) (by norm_num)
  refine ⟨2 ^ (bits - 1), ?_, fun hfits => lt_irrefl _ hfits.2⟩
  rw [Int.natAbs_pow]
  exact hlt

end Engine.SizedInt

namespace Plan

/-! ### Precision and scale -/

/-- Whether there are decimals of the precision with the scale. -/
def IsDecimalType (precision scale : Int32) : Prop :=
  1 ≤ precision.toInt ∧ precision.toInt ≤ 38 ∧ 0 ≤ scale.toInt ∧ scale.toInt ≤ precision.toInt

/-- The width and the scale of the decimals of a precision and a scale. -/
lemma exists_width?_scale?_iff {precision scale : Int32} :
    (∃ w s, width? precision = some w ∧ scale? w scale = some s) ↔
      IsDecimalType precision scale := by
  simp only [width?_eq_some_iff, scale?_eq_some_iff]
  constructor
  · rintro ⟨w, s, ⟨⟨hlow, hhigh⟩, hw⟩, ⟨hlow', hhigh'⟩, -⟩
    exact ⟨hlow, hhigh, hlow', hw ▸ hhigh'⟩
  · rintro ⟨hlow, hhigh, hlow', hhigh'⟩
    refine ⟨.ofNat precision.toInt.toNat, .ofNat scale.toInt.toNat, ?_⟩
    have hw := (uInt8_ofNat_toNat_eq_iff (n := precision.toInt) (by omega) (by omega)).mp rfl
    have hs := (uInt8_ofNat_toNat_eq_iff (n := scale.toInt) (by omega) (by omega)).mp rfl
    exact ⟨⟨⟨hlow, hhigh⟩, hw⟩, ⟨hlow', by rw [hw]; exact hhigh'⟩, hs⟩

/-- A decimal type has the width and the scale that literals of its precision and scale have. -/
lemma DataType.sqlType_decimal_eq_ok {precision scale : Int32} {t : SqlType} :
    (DataType.decimal scale precision).sqlType = .ok t ↔
      ∃ w s, width? precision = some w ∧ scale? w scale = some s ∧ t = .decimal w s := by
  rw [DataType.sqlType]
  cases width? precision with
  | none => simp
  | some w =>
    cases hs : scale? w scale with
    | none => simp [hs]
    | some s => simp [hs, eq_comm]

/-- Whatever is wrong with a decimal literal, the refusal says that it is a decimal. -/
lemma DecimalLiteral.exists_fault {d : DecimalLiteral} {refusal : Refusal}
    (h : d.value = .error refusal) : ∃ fault, refusal = .decimal fault := by
  unfold DecimalLiteral.value at h
  by_cases hlength : d.bytes.length = 16
  · simp only [hlength, ne_eq, not_true, if_false] at h
    cases hw : width? d.precision with
    | none =>
      simp only [hw] at h
      cases h
      exact ⟨_, rfl⟩
    | some width =>
      cases hs : scale? width d.scale with
      | none =>
        simp only [hw, hs] at h
        cases h
        exact ⟨_, rfl⟩
      | some scale =>
        cases hv : SizedInt.ofWidth? (Int128.ofBytes d.bytes) width with
        | none =>
          simp only [hw, hs, hv] at h
          cases h
          exact ⟨_, rfl⟩
        | some stored =>
          simp only [hw, hs, hv] at h
          cases h
  · rw [if_pos hlength] at h
    cases h
    exact ⟨_, rfl⟩

/-- A decimal literal has a value exactly if it has sixteen bytes, there are decimals of its
precision and scale, and its number is in the range of the integer type that is selected. -/
lemma DecimalLiteral.value_eq_ok_iff {d : DecimalLiteral} {v : Value} :
    d.value = .ok v ↔ d.bytes.length = 16 ∧
      FitsBits (SizedInt.bitsFor d.precision.toInt.toNat) (twosComplement d.bytes) ∧
      ∃ stored width scale, v = .decimal stored width scale ∧
        width? d.precision = some width ∧ scale? width d.scale = some scale ∧
        stored.bits = SizedInt.bitsFor d.precision.toInt.toNat ∧
        stored.toInt = twosComplement d.bytes := by
  have hbits : ∀ {width}, width? d.precision = some width →
      width.toNat = d.precision.toInt.toNat := by
    intro width hw
    have := (width?_eq_some_iff.mp hw).2
    omega
  rw [value_eq_ok]
  constructor
  · rintro ⟨width, scale, stored, hlength, hw, hs, hstored, rfl⟩
    rw [SizedInt.ofWidth?_eq_some_iff, hbits hw, Int128.toInt_ofBytes hlength] at hstored
    obtain ⟨hfits, hstored⟩ := hstored
    exact ⟨hlength, hfits, stored, width, scale, rfl, hw, hs, hstored⟩
  · rintro ⟨hlength, hfits, stored, width, scale, rfl, hw, hs, hstored⟩
    refine ⟨width, scale, stored, hlength, hw, hs, ?_, rfl⟩
    rw [SizedInt.ofWidth?_eq_some_iff, hbits hw, Int128.toInt_ofBytes hlength]
    exact ⟨hfits, hstored⟩

/-- A decimal is accepted exactly if it has 16 bytes, a type and a value of the tier. -/
lemma DecimalLiteral.exists_value_iff {d : DecimalLiteral} :
    (∃ v, d.value = .ok v) ↔ d.bytes.length = 16 ∧ IsDecimalType d.precision d.scale ∧
      FitsBits (SizedInt.bitsFor d.precision.toInt.toNat) (twosComplement d.bytes) := by
  simp only [value_eq_ok_iff]
  constructor
  · rintro ⟨v, hlength, hfits, stored, width, scale, -, hw, hs, -⟩
    exact ⟨hlength, exists_width?_scale?_iff.mp ⟨width, scale, hw, hs⟩, hfits⟩
  · rintro ⟨hlength, htype, hfits⟩
    obtain ⟨width, scale, hw, hs⟩ := exists_width?_scale?_iff.mpr htype
    obtain ⟨stored, hstored⟩ := SizedInt.exists_of_fitsBits hfits
    exact ⟨_, hlength, hfits, stored, width, scale, rfl, hw, hs, hstored⟩

/-! ### Literals and types -/

/-- How literals and types of decimals of a precision and a scale are read. -/
structure ReadsDecimals (precision scale : Int32) : Prop where
  /-- A literal is accepted if its bytes are as many and its number is in the range of the type that
  the precision selects. -/
  accepted_iff : ∀ bytes, (∃ v, (DecimalLiteral.mk bytes precision scale).value = .ok v) ↔
    bytes.length = 16 ∧ IsDecimalType precision scale ∧
      FitsBits (SizedInt.bitsFor precision.toInt.toNat) (twosComplement bytes)
  /-- Every other literal is refused as a decimal. -/
  refused : ∀ bytes refusal, (DecimalLiteral.mk bytes precision scale).value = .error refusal →
    ∃ fault, refusal = .decimal fault
  /-- The value has the given precision and scale and holds the number in that type. -/
  value : ∀ bytes v, (DecimalLiteral.mk bytes precision scale).value = .ok v →
    ∃ stored width scale', v = .decimal stored width scale' ∧
      (width.toNat : Int) = precision.toInt ∧ (scale'.toNat : Int) = scale.toInt ∧
      stored.bits = SizedInt.bitsFor precision.toInt.toNat ∧ stored.toInt = twosComplement bytes
  /-- Each number with no more digits than the precision says can be given by a literal, and all
  literals of it are accepted. -/
  covers : IsDecimalType precision scale → ∀ n : Int, n.natAbs < 10 ^ precision.toInt.toNat →
    (∃ bytes, bytes.length = 16 ∧ twosComplement bytes = n) ∧
    ∀ bytes, bytes.length = 16 → twosComplement bytes = n →
      ∃ v, (DecimalLiteral.mk bytes precision scale).value = .ok v
  /-- No narrower type could hold all of these numbers. -/
  narrowest : ∀ bits ∈ [8, 16, 32, 64, 128], bits < SizedInt.bitsFor precision.toInt.toNat →
    ∃ n : Int, n.natAbs < 10 ^ precision.toInt.toNat ∧ ¬ FitsBits bits n
  /-- A type is accepted under the condition on precision and scale that literals have. -/
  type_iff : (∃ t, (DataType.decimal scale precision).sqlType = .ok t) ↔
    IsDecimalType precision scale
  /-- It is the type of the values. -/
  type_eq : ∀ bytes v, (DecimalLiteral.mk bytes precision scale).value = .ok v →
    (DataType.decimal scale precision).sqlType = .ok v.type

/-- Decimal literals are decoded exactly, into the narrowest integer type that has all numbers of so
many digits, and types of decimals are accepted where literals are. -/
theorem readsDecimals (precision scale : Int32) : ReadsDecimals precision scale where
  accepted_iff _ := DecimalLiteral.exists_value_iff
  refused _ _ := DecimalLiteral.exists_fault
  value bytes v h := by
    obtain ⟨-, -, stored, width, scale', rfl, hw, hs, hstored⟩ :=
      DecimalLiteral.value_eq_ok_iff.mp h
    exact ⟨stored, width, scale', rfl, (width?_eq_some_iff.mp hw).2, (scale?_eq_some_iff.mp hs).2,
      hstored⟩
  covers htype n hn := by
    have hprecision : precision.toInt.toNat ≤ 38 := by
      have := htype.2.1
      omega
    refine ⟨exists_twosComplement ?_, ?_⟩
    · have hlt : n.natAbs < 10 ^ 38 := hn.trans_le (Nat.pow_le_pow_right (by decide) hprecision)
      have hfits : FitsBits (SizedInt.bitsFor 38) n := SizedInt.fitsBits_of_lt_pow (le_refl 38) hlt
      exact hfits
    · rintro bytes hlength rfl
      exact DecimalLiteral.exists_value_iff.mpr
        ⟨hlength, htype, SizedInt.fitsBits_of_lt_pow hprecision hn⟩
  narrowest _ hbits h := SizedInt.exists_not_fitsBits hbits h
  type_iff := by
    simp only [DataType.sqlType_decimal_eq_ok]
    rw [← exists_width?_scale?_iff]
    constructor
    · rintro ⟨t, w, s, hw, hs, -⟩
      exact ⟨w, s, hw, hs⟩
    · rintro ⟨w, s, hw, hs⟩
      exact ⟨_, w, s, hw, hs, rfl⟩
  type_eq bytes v h := by
    obtain ⟨-, -, stored, width, scale', rfl, hw, hs, -⟩ := DecimalLiteral.value_eq_ok_iff.mp h
    exact DataType.sqlType_decimal_eq_ok.mpr ⟨width, scale', hw, hs, rfl⟩

end Plan

end PlanImport
