import PlanImport.Proofs.Plan.Integers
import PlanImport.Proofs.Text.Base64Alphabets

/-!
# Bytes as text

Bytes are written in JSON as base64, in the standard or in the URL-safe alphabet. A string is read
as bytes exactly if it is one of their two texts. All other strings are refused: those with symbols
of both alphabets, those in which padding is left out, and those in which bits that belong to no
byte are not zero.
-/

namespace PlanImport

open Schema

/-! ### Fields in JSON -/

namespace Json.Raw

variable {known : Bool} {depth : Nat} {x : Scalar} {s : String}

/-- Known or not, a string that is wanted as bytes is read in either alphabet. -/
lemma scalar?_string_bytes_iff :
    (string (some s)).scalar? known depth .bytes = some x ↔
      ∃ (a : Base64.Alphabet) (bytes : List UInt8), s = a.text bytes ∧ x = .bytes bytes := by
  have hread : (string (some s)).scalar? known depth .bytes = some x ↔
      ∃ bytes, Base64.decode s = .ok bytes ∧ x = .bytes bytes := by
    rw [scalar?_string, Scalar.ofJson, Scalar.stringOfJson]
    cases h : Base64.decode s with
    | ok bytes => simp [h, Except.toOption, eq_comm]
    | error e => simp [h, Except.toOption]
  simp only [hread, Base64.decode_eq_ok_iff]
  constructor
  · rintro ⟨bytes, ⟨a, hs⟩, hx⟩
    exact ⟨a, bytes, hs, hx⟩
  · rintro ⟨a, bytes, hs, hx⟩
    exact ⟨bytes, ⟨a, hs⟩, hx⟩

/-- A string that is no text of bytes is refused. -/
lemma scalar?_string_bytes_eq_none_iff :
    (string (some s)).scalar? known depth .bytes = none ↔
      ∀ (a : Base64.Alphabet) (bytes : List UInt8), s ≠ a.text bytes := by
  rw [Option.eq_none_iff_forall_ne_some]
  constructor
  · rintro h a bytes hs
    exact h _ (scalar?_string_bytes_iff.mpr ⟨a, bytes, hs, rfl⟩)
  · rintro h x hx
    obtain ⟨a, bytes, hs, -⟩ := scalar?_string_bytes_iff.mp hx
    exact h a bytes hs

end Json.Raw

/-! ### Both alphabets -/

open Base64 in
/-- How bytes are read from texts. -/
structure ReadsBytes : Prop where
  /-- A text has the bits of its bytes, filled up with zeros and padding. -/
  text : ∀ (a : Alphabet) (s : String) (bytes : List UInt8),
    s = a.text bytes ↔ IsBase64 a s.toUTF8.toList bytes
  /-- Both texts of bytes are read as them, wherever their field is. -/
  read : ∀ (known : Bool) (depth : Nat) (a : Alphabet) (bytes : List UInt8),
    (Json.Raw.string (some (a.text bytes))).scalar? known depth .bytes = some (.bytes bytes)
  /-- No other string is read. -/
  only : ∀ (known : Bool) (depth : Nat) (s : String) (x : Scalar),
    (Json.Raw.string (some s)).scalar? known depth .bytes = some x →
      ∃ (a : Alphabet) (bytes : List UInt8), s = a.text bytes ∧ x = .bytes bytes
  /-- No string has symbols that only one alphabet has and symbols that only the other one has. -/
  unmixed : ∀ (known : Bool) (depth : Nat) (s : String) (c d : Char),
    c ∈ s.toList → d ∈ s.toList → c ∈ Alphabet.standard.own → d ∈ Alphabet.urlSafe.own →
      (Json.Raw.string (some s)).scalar? known depth .bytes = none
  /-- No padding is left out. -/
  padded : ∀ (known : Bool) (depth : Nat) (s : String), s.length % 4 ≠ 0 →
    (Json.Raw.string (some s)).scalar? known depth .bytes = none
  /-- No bit after those of the last whole byte is set. -/
  filled : ∀ (known : Bool) (depth : Nat) (a : Alphabet) (xs : List (Fin 64)) (pads : Nat)
    (s : String), s.toUTF8.toList = a.symbols xs ++ List.replicate pads pad →
    true ∈ (symbolBits xs).drop ((symbolBits xs).length / 8 * 8) →
      (Json.Raw.string (some s)).scalar? known depth .bytes = none
  /-- The same is read if the URL-safe alphabet is tried first. -/
  order : ∀ s : String, (decode s).toOption = (decodeInOrder .urlSafe .standard s).toOption

open Base64 in
/-- Bytes are read from each of their two texts, and from no other text. -/
theorem readsBytes : ReadsBytes where
  text a s bytes := by rw [eq_text_iff, isBase64_iff]
  read known depth a bytes := Json.Raw.scalar?_string_bytes_iff.mpr ⟨a, bytes, rfl, rfl⟩
  only known depth s x := Json.Raw.scalar?_string_bytes_iff.mp
  unmixed known depth s c d hc hd hown hown' := by
    rw [Json.Raw.scalar?_string_bytes_eq_none_iff]
    rintro a bytes rfl
    have hstandard := eq_of_mem_own hown hc
    have hurlSafe := eq_of_mem_own hown' hd
    exact nomatch hstandard.symm.trans hurlSafe
  padded known depth s h := by
    rw [Json.Raw.scalar?_string_bytes_eq_none_iff]
    rintro a bytes rfl
    exact h (length_text_mod a bytes)
  filled known depth a xs pads s hs h := by
    rw [Json.Raw.scalar?_string_bytes_eq_none_iff]
    intro a' bytes htext
    rw [eq_text_iff, hs] at htext
    obtain ⟨zeros, hzeros, hbits⟩ := exists_zeros htext
    rw [drop_symbolBits hzeros hbits] at h
    cases List.eq_of_mem_replicate h
  order s := by rw [decode_eq_decodeInOrder, toOption_decodeInOrder_comm]

open Base64 in
/-- Strings with symbols of both alphabets, without their padding and with a bit too many. -/
theorem readsBytes_refused :
    (Json.Raw.string (some "+-AA")).scalar? true 0 .bytes = none ∧
      (Json.Raw.string (some "QQ")).scalar? true 0 .bytes = none ∧
        (Json.Raw.string (some "QR==")).scalar? true 0 .bytes = none := by
  have hsymbols : "QR==".toUTF8.toList =
      Alphabet.standard.symbols [16, 17] ++ List.replicate 2 pad := by
    rw [toList_toUTF8]
    decide
  exact ⟨readsBytes.unmixed _ _ _ '+' '-' (by decide) (by decide) (by decide) (by decide),
    readsBytes.padded _ _ _ (by decide), readsBytes.filled _ _ _ _ _ _ hsymbols (by decide)⟩

end PlanImport
