/-!
# Integers on the wire

Variable-length integers of 64 bits: seven bits in each byte, the low ones first, the high bit
of a byte telling that another one follows. A number takes at most ten bytes, of which the tenth
has a single bit. Integers of fixed length have their low bytes first.
-/

namespace PlanImport.Wire

/-- The bytes of a natural number. -/
def varint (n : Nat) : List UInt8 :=
  if n < 128 then [UInt8.ofNat n] else UInt8.ofNat (n % 128 + 128) :: varint (n / 128)

/-- Read a number of which so many more bytes may follow, the last one at most 1: its value and
the bytes after it. -/
def readVarintWith : Nat → List UInt8 → Option (Nat × List UInt8)
  | _, [] => none
  | left, b :: rest =>
    if b < 128 then
      if left = 0 ∧ 1 < b then none else some (b.toNat, rest)
    else match left with
      | 0 => none
      | left + 1 =>
        (readVarintWith left rest).map fun (n, tail) => (b.toNat - 128 + 128 * n, tail)

/-- Read a number below `2 ^ 64`. -/
def readVarint (bytes : List UInt8) : Option (Nat × List UInt8) := readVarintWith 9 bytes

theorem length_readVarintWith {left n : Nat} {bytes rest : List UInt8}
    (h : readVarintWith left bytes = some (n, rest)) : rest.length < bytes.length := by
  fun_induction readVarintWith left bytes generalizing n rest with
  | case1 => cases h
  | case2 => cases h
  | case3 => cases h; simp
  | case4 => cases h
  | case5 _ _ _ _ ih =>
    simp only [Option.map_eq_some_iff, Prod.exists] at h
    obtain ⟨n', tail, hr, h⟩ := h
    cases h
    have := ih hr
    simp only [List.length_cons]; omega

/-- The bytes of a number of fixed length. -/
def fixed : Nat → Nat → List UInt8
  | 0, _ => []
  | size + 1, n => UInt8.ofNat (n % 256) :: fixed size (n / 256)

/-- Read a number of fixed length. -/
def readFixed : Nat → List UInt8 → Option (Nat × List UInt8)
  | 0, bytes => some (0, bytes)
  | _ + 1, [] => none
  | size + 1, b :: rest =>
    (readFixed size rest).map fun (n, tail) => (b.toNat + 256 * n, tail)

theorem length_readFixed {size n : Nat} {bytes rest : List UInt8}
    (h : readFixed size bytes = some (n, rest)) : rest.length ≤ bytes.length := by
  fun_induction readFixed size bytes generalizing n rest with
  | case1 => cases h; simp
  | case2 => cases h
  | case3 _ _ _ ih =>
    simp only [Option.map_eq_some_iff, Prod.exists] at h
    obtain ⟨n', tail, hr, h⟩ := h
    cases h
    have := ih hr
    simp only [List.length_cons]; omega

end PlanImport.Wire
