import Mathlib.Algebra.Group.Int.Defs
import PlanImport.Message.OfJson
import PlanImport.Proofs.Json.Printed
import PlanImport.Proofs.Lowering.Read
import PlanImport.Proofs.Number.IntText

/-!
# Integers of 64 bits as text

An integer of 64 bits is written in JSON as a numeral or as a string with a sign and digits between
blanks, which mean the same. The number of a snapshot is written like the string, but has to be
positive and not the greatest one.
-/

namespace PlanImport

open Engine Plan Schema IntText

/-! ### Fields in JSON -/

namespace Json

/-- The scalar that a value of a text is read as, either in an outermost message or, where values
are known before they are read, further below. -/
def Raw.scalar? (known : Bool) (depth : Nat) (type : ScalarType) (v : Raw) : Option Scalar :=
  if known then (v.value? depth).bind fun j => (j.reading.scalar type).toOption
  else ((v.reading depth).scalar type).toOption

lemma Raw.toOption_withLeaf_ok (j : Json) (type : ScalarType) :
    (Raw.withLeaf (.ok j) (Scalar.ofJson type)).toOption = (Scalar.ofJson type j).toOption := by
  rw [Raw.withLeaf, Except.bind]
  cases Scalar.ofJson type j <;> rfl

@[simp] lemma Raw.scalar?_string (known : Bool) (depth : Nat) (type : ScalarType) (s : String) :
    (Raw.string (some s)).scalar? known depth type =
      (Scalar.ofJson type (.string s)).toOption := by
  cases known with
  | true => rfl
  | false => exact Raw.toOption_withLeaf_ok (.string s) type

@[simp] lemma Raw.scalar?_number (known : Bool) (depth : Nat) (type : ScalarType) (n : Numeral) :
    (Raw.number n).scalar? known depth type =
      n.number?.bind fun m => (Scalar.ofJson type (.number m)).toOption := by
  cases known with
  | true =>
    rw [scalar?, if_pos rfl, value?]
    cases n.number? <;> rfl
  | false =>
    rw [scalar?, if_neg Bool.false_ne_true, reading, leafReading, leaf, value?]
    cases n.number? with
    | none => rfl
    | some m => exact toOption_withLeaf_ok (.number m) type

/-- Numerals of integers beyond 64 bits are floating point numbers. -/
lemma Numeral.number?_ofInt_eq_int_iff {n m : Int} : (Numeral.ofInt n).number? = some (.int m) ↔
    m = n ∧ -0x8000000000000000 ≤ n ∧ n < 0x10000000000000000 := by
  have hdouble {double : Option Nat} {number : Nat → UInt64} :
      (double.map fun bits => Number.double (number bits)) ≠ some (.int m) := by
    simp
  rw [number?, int?_ofInt]
  dsimp only
  by_cases hneg : n < 0
  · rw [if_pos (by simpa [ofInt] using hneg)]
    split_ifs with h
    · simp
      omega
    · simp [hdouble]
      omega
  · rw [if_neg (by simpa [ofInt] using hneg)]
    split_ifs with h
    · simp
      omega
    · simp [hdouble]
      omega

end Json

namespace Scalar

lemma toOption_ofJson_int64_eq_some_iff {j : Json} {x : Scalar} :
    (ofJson .int64 j).toOption = some x ↔ ∃ m, int64OfJson j = .ok m ∧ x = .int64 m := by
  rw [ofJson]
  cases int64OfJson j with
  | ok m => simp [Except.map, Except.toOption, eq_comm]
  | error e => simp [Except.map, Except.toOption]

lemma int64OfJson_string_eq_ok_iff {s : String} {m : Int64} :
    int64OfJson (.string s) = .ok m ↔ SpellsTrimmed s.toList m.toInt := by
  rw [int64OfJson, ← spells_trim_iff, ← readInt64_eq_ok_iff]
  cases readInt64 (Text.trim s.toList) with
  | ok n => simp
  | error e => simp

/-- An integer in a JSON text fits if it has the value of one of 64 bits. -/
lemma int64OfJson_number_eq_ok_iff {n : Json.Number} {m : Int64} :
    int64OfJson (.number n) = .ok m ↔ n = .int m.toInt := by
  have hlow := m.le_toInt
  have hhigh := m.toInt_lt
  cases n with
  | int n =>
    rw [int64OfJson]
    split_ifs with h
    · rw [Except.ok.injEq, Json.Number.int.injEq, ← Int64.toInt_inj,
        Int64.toInt_ofInt_of_le h.1 h.2]
    · simp
      omega
  | single | double => simp [int64OfJson]

/-- An integer of 64 bits is one in their bounds. -/
lemma exists_eq_int64_iff {P : Int → Prop} {x : Scalar} :
    (∃ m : Int64, P m.toInt ∧ x = .int64 m) ↔
      ∃ n, P n ∧ (-2 ^ 63 ≤ n ∧ n < 2 ^ 63) ∧ x = .int64 (.ofInt n) := by
  constructor
  · rintro ⟨m, hm, rfl⟩
    exact ⟨m.toInt, hm, ⟨m.le_toInt, m.toInt_lt⟩, by rw [Int64.ofInt_toInt]⟩
  · rintro ⟨n, hn, hbounds, rfl⟩
    exact ⟨.ofInt n, by rwa [Int64.toInt_ofInt_of_le hbounds.1 hbounds.2], rfl⟩

end Scalar

namespace Json.Raw

variable {known : Bool} {depth : Nat} {x : Scalar}

lemma scalar?_string_int64_iff {s : String} :
    (string (some s)).scalar? known depth .int64 = some x ↔
      ∃ n, SpellsTrimmed s.toList n ∧ (-2 ^ 63 ≤ n ∧ n < 2 ^ 63) ∧ x = .int64 (.ofInt n) := by
  rw [scalar?_string, Scalar.toOption_ofJson_int64_eq_some_iff]
  simp only [Scalar.int64OfJson_string_eq_ok_iff]
  exact Scalar.exists_eq_int64_iff

lemma scalar?_ofInt_int64_iff {n : Int} :
    (number (.ofInt n)).scalar? known depth .int64 = some x ↔
      (-2 ^ 63 ≤ n ∧ n < 2 ^ 63) ∧ x = .int64 (.ofInt n) := by
  have hread : (number (.ofInt n)).scalar? known depth .int64 = some x ↔
      ∃ m : Int64, m.toInt = n ∧ x = .int64 m := by
    simp only [scalar?_number, Option.bind_eq_some_iff,
      Scalar.toOption_ofJson_int64_eq_some_iff, Scalar.int64OfJson_number_eq_ok_iff]
    constructor
    · rintro ⟨_, hnumber, m, rfl, hx⟩
      exact ⟨m, (Numeral.number?_ofInt_eq_int_iff.mp hnumber).1, hx⟩
    · rintro ⟨m, rfl, hx⟩
      have hlow := m.le_toInt
      have hhigh := m.toInt_lt
      exact ⟨_, Numeral.number?_ofInt_eq_int_iff.mpr ⟨rfl, hlow, by omega⟩, m, rfl, hx⟩
  rw [hread, Scalar.exists_eq_int64_iff (P := (· = n))]
  simp

/-- The text of an integer is its numeral. -/
lemma ofText_decimal (n : Int) : ofText (.ofList (Text.decimal n)) = (number (.ofInt n), true) :=
  ofText_render (.number (.int n)) trivial

end Json.Raw

/-! ### Snapshots -/

/-- The bounds of the numbers of snapshots are within those of 64 bits. -/
lemma snapshotNumber?_eq_some_iff {s : String} {number : UInt64} :
    snapshotNumber? s = some number ↔ ∃ n, SpellsTrimmed s.toList n ∧
      (0 < n ∧ n < 2 ^ 63 - 1) ∧ number = .ofNat n.toNat := by
  have hread : snapshotNumber? s = some number ↔ ∃ m : Int64, SpellsTrimmed s.toList m.toInt ∧
      (0 < m.toInt ∧ m.toInt < 2 ^ 63 - 1) ∧ number = .ofNat m.toInt.toNat := by
    simp only [← spells_trim_iff, ← readInt64_eq_ok_iff]
    rw [snapshotNumber?]
    cases readInt64 (Text.trim s.toList) with
    | ok m => simp [eq_comm]
    | error e => simp
  rw [hread]
  constructor
  · rintro ⟨m, hspells, hbounds, hnumber⟩
    exact ⟨m.toInt, hspells, hbounds, hnumber⟩
  · rintro ⟨n, hspells, hbounds, hnumber⟩
    have hn : (Int64.ofInt n).toInt = n := Int64.toInt_ofInt_of_le (by omega) (by omega)
    exact ⟨.ofInt n, hn.symm ▸ hspells, hn.symm ▸ hbounds, hn.symm ▸ hnumber⟩

/-- A snapshot becomes one parameter with its number. -/
lemma mapM_parameter_id_eq_ok_iff {s : String} {parameters : List Value} :
    [Snapshot.id s].mapM Snapshot.parameter = .ok parameters ↔
      ∃ number, snapshotNumber? s = some number ∧ parameters = [.uBigInt number] := by
  simp only [mapM_eq_ok_iff_forall₂, List.forall₂_cons_left_iff, List.forall₂_nil_left_iff,
    Snapshot.parameter]
  cases snapshotNumber? s with
  | some number => simp [eq_comm]
  | none => simp

/-- A table is scanned at a snapshot if the snapshot has a number. -/
lemma LoweringContext.scan_snapshot_eq_ok_iff {c : LoweringContext} {uri s : String} {k k' : Nat}
    {scan : Relation} (huri : uri ≠ "") :
    (c.scan (.icebergTable (some ⟨uri, some (.id s)⟩))).runFrom k = (.ok scan, k') ↔
      ∃ n, SpellsTrimmed s.toList n ∧ (0 < n ∧ n < 2 ^ 63 - 1) ∧ k' = k + 1 ∧
        scan = .aliased ("iceberg" ++ "_" ++ .ofList (Text.digits k))
          (.tableFunction "iceberg_scan" [.varchar uri, .uBigInt (.ofNat n.toNat)] []
            c.lockMode) := by
  have hempty : uri.isEmpty = false := by simpa using huri
  rw [LoweringContext.scan, LoweringContext.scanMetadata_eq_ok]
  constructor
  · rintro ⟨file, parameters, hfile, -, hparameters, hscan, hk⟩
    cases hfile
    obtain ⟨number, hnumber, rfl⟩ := mapM_parameter_id_eq_ok_iff.mp hparameters
    obtain ⟨n, hspells, hbounds, rfl⟩ := snapshotNumber?_eq_some_iff.mp hnumber
    exact ⟨n, hspells, hbounds, hk, hscan⟩
  · rintro ⟨n, hspells, hbounds, hk, hscan⟩
    have hnumber := snapshotNumber?_eq_some_iff.mpr ⟨n, hspells, hbounds, rfl⟩
    have hparameters := mapM_parameter_id_eq_ok_iff.mpr ⟨_, hnumber, rfl⟩
    exact ⟨_, _, rfl, hempty, hparameters, hscan, hk⟩

/-! ### Both spellings -/

/-- How integers of 64 bits are read from texts. -/
structure ReadsInt64 : Prop where
  /-- A string is read if it is an optional sign and digits between blanks and stands for an
  integer of 64 bits, wherever its field is. This is the integer. -/
  string : ∀ (known : Bool) (depth : Nat) (s : String) (x : Scalar),
    (Json.Raw.string (some s)).scalar? known depth .int64 = some x ↔
      ∃ n, SpellsTrimmed s.toList n ∧ (-2 ^ 63 ≤ n ∧ n < 2 ^ 63) ∧ x = .int64 (.ofInt n)
  /-- The numeral of an integer is read if it has 64 bits. -/
  numeral : ∀ n : Int, ∃ v, Json.Raw.ofText (.ofList (Text.decimal n)) = (v, true) ∧
    ∀ known depth x, v.scalar? known depth .int64 = some x ↔
      (-2 ^ 63 ≤ n ∧ n < 2 ^ 63) ∧ x = .int64 (.ofInt n)
  /-- A numeral between quotes is read as the integer that it is without them. -/
  agree : ∀ (known : Bool) (depth : Nat) (m : Int64),
    (Json.Raw.string (some (.ofList (Text.decimal m.toInt)))).scalar? known depth .int64 =
        some (.int64 m) ∧
      (Json.Raw.ofText (.ofList (Text.decimal m.toInt))).1.scalar? known depth .int64 =
        some (.int64 m)
  /-- A table is read at a snapshot if the text of the snapshot is like such a string, and the
  integer is positive and not the greatest one of 64 bits. It is the second parameter of the
  scan. -/
  snapshot : ∀ (c : LoweringContext) (uri s : String) (filter : Option Expression)
    (fields : List Int32) (k k' : Nat) (r : Relation), uri ≠ "" →
    ((c.lowerRead ⟨.icebergTable (some ⟨uri, some (.id s)⟩), filter, fields⟩).runFrom k =
        (.ok r, k') ↔
      ∃ n, SpellsTrimmed s.toList n ∧ (0 < n ∧ n < 2 ^ 63 - 1) ∧ k' = k + 1 ∧
        ∃ source, c.filtered filter (.aliased ("iceberg" ++ "_" ++ .ofList (Text.digits k))
          (.tableFunction "iceberg_scan" [.varchar uri, .uBigInt (.ofNat n.toNat)] []
            c.lockMode)) = .ok source ∧ keepColumns fields source = .ok r)

/-- An integer of 64 bits is read from each of its spellings, and from no other text. -/
theorem readsInt64 : ReadsInt64 where
  string known depth s x := Json.Raw.scalar?_string_int64_iff
  numeral n := ⟨_, Json.Raw.ofText_decimal n, fun _ _ _ => Json.Raw.scalar?_ofInt_int64_iff⟩
  agree known depth m := by
    have hbounds : -2 ^ 63 ≤ m.toInt ∧ m.toInt < 2 ^ 63 := ⟨m.le_toInt, m.toInt_lt⟩
    rw [Json.Raw.ofText_decimal, Json.Raw.scalar?_ofInt_int64_iff,
      Json.Raw.scalar?_string_int64_iff, String.toList_ofList, Int64.ofInt_toInt]
    have hspells : SpellsTrimmed (Text.decimal m.toInt) m.toInt :=
      ⟨[], _, [], by simp, by simp, by simp, spells_decimal m.toInt⟩
    exact ⟨⟨_, hspells, hbounds, by rw [Int64.ofInt_toInt]⟩, hbounds, rfl⟩
  snapshot c uri s filter fields k k' r huri := by
    simp only [LoweringContext.lowerRead_eq_ok, LoweringContext.scan_snapshot_eq_ok_iff huri]
    constructor
    · rintro ⟨_, source, ⟨n, hspells, hbounds, hk, rfl⟩, hfiltered, hkept⟩
      exact ⟨n, hspells, hbounds, hk, source, hfiltered, hkept⟩
    · rintro ⟨n, hspells, hbounds, hk, source, hfiltered, hkept⟩
      exact ⟨_, source, ⟨n, hspells, hbounds, hk, rfl⟩, hfiltered, hkept⟩

end PlanImport
