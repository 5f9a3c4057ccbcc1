import Mathlib.Algebra.Group.Int.Defs
import Mathlib.Algebra.Group.Nat.Defs
import PlanImport.Engine.OfRaw
import PlanImport.Engine.ToJson
import PlanImport.Proofs.Json.PrintedFields

/-!
# Types and values that are read back

The JSON of a type is read back as this type, and that of a value as this value if there is no
floating point number in it.
-/

namespace PlanImport.Engine

open Json Json.Raw

variable {depth : Nat} {name : String} {argument : Json}

/-! ### Constructors -/

lemma choice?_tagged :
    (tagged name argument).raw.choice? (depth + 1) = some (name, some argument.raw) := rfl

lemma bind_choice?_tagged {α : Type} {f : String × Option Raw → Option α} :
    ((tagged name argument).raw.choice? (depth + 1) >>= f) = f (name, some argument.raw) := rfl

lemma nesting_tagged_le_iff : (tagged name argument).raw.nesting ≤ depth ↔
    ∃ d, depth = d + 1 ∧ argument.raw.nesting ≤ d := by
  simp [tagged, nesting_object_le_iff]

/-- A constructor whose argument is a record. -/
lemma nesting_tagged_object_le_iff {members : List (String × Json)} :
    (tagged name (.object members)).raw.nesting ≤ depth ↔
      ∃ d, depth = d + 2 ∧ ∀ m ∈ members, m.2.raw.nesting ≤ d := by
  rw [nesting_tagged_le_iff]
  simp only [nesting_object_le_iff]
  constructor
  · rintro ⟨_, rfl, d, rfl, h⟩
    exact ⟨d, rfl, h⟩
  · rintro ⟨d, rfl, h⟩
    exact ⟨d + 1, rfl, d, rfl, h⟩

/-- A constructor with a list takes two levels, one for the tag and one for the array. -/
lemma nesting_tagged_array_le_iff {items : List Json} :
    (tagged name (.array items)).raw.nesting ≤ depth ↔
      ∃ d, depth = d + 2 ∧ ∀ v ∈ items, v.raw.nesting ≤ d := by
  rw [nesting_tagged_le_iff]
  simp only [nesting_array_le_iff]
  constructor
  · rintro ⟨_, rfl, d, rfl, h⟩
    exact ⟨d, rfl, h⟩
  · rintro ⟨d, rfl, h⟩
    exact ⟨d + 1, rfl, d, rfl, h⟩

lemma constantOfRaw?_raw_string {α : Type} (table : List (String × α)) :
    constantOfRaw? table depth (Json.string name).raw = table.lookup name := rfl

lemma choice?_raw_string : (Json.string name).raw.choice? depth = some (name, none) := rfl

/-! ### Integers -/

lemma int?_raw_jsonInt {lo hi n : Int} (h : lo ≤ n) (h' : n ≤ hi) (hlo : -0x8000000000000000 ≤ lo)
    (hhi : hi < 0x10000000000000000) : (jsonInt n).raw.int? lo hi = some n :=
  int?_ofInt h h' hlo hhi

lemma nat?_raw_jsonInt {bits n : Nat} (h : n < 2 ^ bits) (hbits : bits ≤ 64) :
    (jsonInt n).raw.nat? bits = some n := by
  have hmax : 2 ^ bits ≤ 2 ^ 64 := Nat.pow_le_pow_right (by decide) hbits
  have hpow : Nat.pow 2 bits = 2 ^ bits := rfl
  rw [nat?, int?_raw_jsonInt (by omega) (by omega) (by omega) (by omega)]
  rfl

lemma signed?_raw_jsonInt {bits : Nat} {n : Int} (h : -2 ^ bits ≤ n) (h' : n < 2 ^ bits)
    (hbits : bits < 64) : (jsonInt n).raw.signed? (bits + 1) = some n := by
  have hmax : 2 ^ bits ≤ 2 ^ 63 := Nat.pow_le_pow_right (by decide) (by omega)
  have hpow : ((Nat.pow 2 bits : Nat) : Int) = 2 ^ bits := Int.natCast_pow 2 bits
  have hmax' : ((Nat.pow 2 bits : Nat) : Int) ≤ 2 ^ 63 := by exact_mod_cast hmax
  rw [signed?, Nat.add_sub_cancel]
  exact int?_raw_jsonInt (by omega) (by omega) (by omega) (by omega)

lemma signed?_raw_int8 (n : Int8) : (jsonInt n.toInt).raw.signed? 8 = some n.toInt :=
  signed?_raw_jsonInt n.le_toInt n.toInt_lt (by decide)

lemma signed?_raw_int16 (n : Int16) : (jsonInt n.toInt).raw.signed? 16 = some n.toInt :=
  signed?_raw_jsonInt n.le_toInt n.toInt_lt (by decide)

lemma signed?_raw_int32 (n : Int32) : (jsonInt n.toInt).raw.signed? 32 = some n.toInt :=
  signed?_raw_jsonInt n.le_toInt n.toInt_lt (by decide)

lemma signed?_raw_int64 (n : Int64) : (jsonInt n.toInt).raw.signed? 64 = some n.toInt :=
  signed?_raw_jsonInt n.le_toInt n.toInt_lt (by decide)

lemma nat?_raw_uInt8 (n : UInt8) : (jsonInt n.toNat).raw.nat? 8 = some n.toNat :=
  nat?_raw_jsonInt n.toNat_lt (by decide)

lemma nat?_raw_uInt64 (n : UInt64) : (jsonInt n.toNat).raw.nat? 64 = some n.toNat :=
  nat?_raw_jsonInt n.toNat_lt (by decide)

lemma int128?_raw_int128 (n : Int128) : (jsonInt n.toInt).raw.int128? = some n := int128?_ofInt n

/-! ### Types -/

namespace SqlType

mutual

/-- A type is read back. -/
lemma ofRaw?_toJson {depth : Nat} (t : SqlType) (h : t.toJson.raw.nesting ≤ depth) :
    ofRaw? depth t.toJson.raw = some t := by
  match t with
  | sqlNull | unknown | boolean | tinyInt | smallInt | integer | bigInt | uBigInt | float | double
  | date | time | timestamp | interval | varchar =>
    rw [toJson, ofRaw?, choice?_raw_string]
    simp [constantOfRaw?_raw_string, constants, List.lookup_cons]
  | decimal width scale =>
    rw [toJson] at h
    obtain ⟨d, rfl, -⟩ := nesting_tagged_object_le_iff.mp h
    rw [toJson, ofRaw?, choice?_tagged]
    simp -implicitDefEqProofs [fields?_raw_object, nat?_raw_uInt8]
  | list element =>
    rw [toJson] at h
    obtain ⟨d, rfl, helement⟩ := nesting_tagged_le_iff.mp h
    rw [toJson, ofRaw?, choice?_tagged]
    simp [ofRaw?_toJson element helement]
  | struct fields =>
    rw [toJson] at h
    obtain ⟨d, rfl, hitems⟩ := nesting_tagged_array_le_iff.mp h
    have hfields := mapM_fieldsToJson fields hitems
    rw [toJson, ofRaw?, choice?_tagged]
    exact Option.bind_eq_some_iff.mpr ⟨fields, hfields, rfl⟩
  | map key value =>
    rw [toJson] at h
    obtain ⟨d, rfl, hfields⟩ := nesting_tagged_object_le_iff.mp h
    have hkey := ofRaw?_toJson key (hfields ("key", key.toJson) (by simp))
    have hvalue := ofRaw?_toJson value (hfields ("value", value.toJson) (by simp))
    rw [toJson, ofRaw?, choice?_tagged]
    simp [fields?_raw_object, hkey, hvalue]

/-- Fields of a struct are read back, each of them as an array of a name and a type. -/
lemma mapM_fieldsToJson {depth : Nat} (fields : List (String × SqlType))
    (h : ∀ v ∈ fieldsToJson fields, v.raw.nesting ≤ depth) :
    (itemsRaw (fieldsToJson fields)).mapM (fun item => do
      let [name, type] ← item.items? depth | none
      return (← name.text?, ← ofRaw? (depth - 1) type)) = some fields := by
  match fields with
  | [] => rfl
  | (name, type) :: rest =>
    rw [fieldsToJson, List.forall_mem_cons] at h
    obtain ⟨d, rfl, hfield⟩ := nesting_array_le_iff.mp h.1
    have htype := ofRaw?_toJson type (hfield _ (by simp))
    have hrest := mapM_fieldsToJson rest h.2
    rw [fieldsToJson, itemsRaw, List.mapM_cons, hrest, items?_raw_array]
    simp [itemsRaw, text?_raw_string, htype]

end

mutual

lemma floatFree_toJson (t : SqlType) : t.toJson.FloatFree := by
  match t with
  | sqlNull | unknown | boolean | tinyInt | smallInt | integer | bigInt | uBigInt | float | double
  | date | time | timestamp | interval | varchar => simp [toJson, FloatFree]
  | decimal width scale => simp [toJson, tagged, FloatFree, jsonInt]
  | list element => simp [toJson, tagged, FloatFree, floatFree_toJson element]
  | struct fields =>
    simpa [toJson, tagged, FloatFree] using floatFree_fieldsToJson fields
  | map key value =>
    simp [toJson, tagged, FloatFree, floatFree_toJson key, floatFree_toJson value]

lemma floatFree_fieldsToJson (fields : List (String × SqlType)) :
    ∀ v ∈ fieldsToJson fields, v.FloatFree := by
  match fields with
  | [] => simp [fieldsToJson]
  | (name, type) :: rest =>
    simpa [fieldsToJson, FloatFree, floatFree_toJson type] using floatFree_fieldsToJson rest

end

end SqlType

/-! ### Values -/

/-- An unscaled value is read back, as its tag says in how many bits it is stored. -/
lemma SizedInt.ofRaw?_toJson {depth : Nat} (n : SizedInt) (h : n.toJson.raw.nesting ≤ depth) :
    ofRaw? depth n.toJson.raw = some n := by
  cases n <;> obtain ⟨d, rfl, -⟩ := nesting_tagged_le_iff.mp h <;>
    rw [toJson, ofRaw?, choice?_tagged]
  case int8 n => simp -implicitDefEqProofs [signed?_raw_int8]
  case int16 n => simp -implicitDefEqProofs [signed?_raw_int16]
  case int32 n => simp -implicitDefEqProofs [signed?_raw_int32]
  case int64 n => simp -implicitDefEqProofs [signed?_raw_int64]
  case int128 n => simp -implicitDefEqProofs [int128?_raw_int128]

lemma SizedInt.floatFree_toJson (n : SizedInt) : n.toJson.FloatFree := by
  cases n <;> simp [toJson, tagged, FloatFree, jsonInt]

namespace Value

mutual

def FloatFree : Value → Prop
  | float _ => False
  | double _ => False
  | list items => AllFloatFree items
  | _ => True

def AllFloatFree : List Value → Prop
  | [] => True
  | v :: rest => v.FloatFree ∧ AllFloatFree rest

end

@[simp] lemma allFloatFree_iff {vs : List Value} :
    AllFloatFree vs ↔ ∀ v ∈ vs, v.FloatFree := by
  induction vs with
  | nil => simp [AllFloatFree]
  | cons v vs ih => simp [AllFloatFree, ih]

mutual

/-- A value is read back. -/
lemma ofRaw?_toJson {depth : Nat} (v : Value) (hv : v.FloatFree)
    (h : v.toJson.raw.nesting ≤ depth) : ofRaw? depth v.toJson.raw = some v := by
  match v with
  | null =>
    rw [toJson, ofRaw?, choice?_raw_string]
    simp [constantOfRaw?_raw_string]
  | boolean b =>
    rw [toJson] at h
    obtain ⟨d, rfl, -⟩ := nesting_tagged_le_iff.mp h
    rw [toJson, ofRaw?, choice?_tagged]
    simp [bool?_raw_bool]
  | tinyInt n =>
    rw [toJson] at h
    obtain ⟨d, rfl, -⟩ := nesting_tagged_le_iff.mp h
    rw [toJson, ofRaw?, choice?_tagged]
    simp -implicitDefEqProofs [signed?_raw_int8]
  | smallInt n =>
    rw [toJson] at h
    obtain ⟨d, rfl, -⟩ := nesting_tagged_le_iff.mp h
    rw [toJson, ofRaw?, choice?_tagged]
    simp -implicitDefEqProofs [signed?_raw_int16]
  | integer n | date n =>
    rw [toJson] at h
    obtain ⟨d, rfl, -⟩ := nesting_tagged_le_iff.mp h
    rw [toJson, ofRaw?, choice?_tagged]
    simp -implicitDefEqProofs [signed?_raw_int32]
  | bigInt n | time n | timestamp n =>
    rw [toJson] at h
    obtain ⟨d, rfl, -⟩ := nesting_tagged_le_iff.mp h
    rw [toJson, ofRaw?, choice?_tagged]
    simp -implicitDefEqProofs [signed?_raw_int64]
  | uBigInt n =>
    rw [toJson] at h
    obtain ⟨d, rfl, -⟩ := nesting_tagged_le_iff.mp h
    rw [toJson, ofRaw?, choice?_tagged]
    simp -implicitDefEqProofs [nat?_raw_uInt64]
  | float _ | double _ => exact absurd hv id
  | varchar s =>
    rw [toJson] at h
    obtain ⟨d, rfl, -⟩ := nesting_tagged_le_iff.mp h
    rw [toJson, ofRaw?, choice?_tagged]
    simp [text?_raw_string]
  | interval i =>
    rw [toJson] at h
    obtain ⟨d, rfl, -⟩ := nesting_tagged_object_le_iff.mp h
    rw [toJson, ofRaw?, choice?_tagged]
    simp -implicitDefEqProofs [fields?_raw_object, signed?_raw_int32, signed?_raw_int64]
  | decimal storage width scale =>
    rw [toJson] at h
    obtain ⟨d, rfl, hfields⟩ := nesting_tagged_object_le_iff.mp h
    have hstorage := storage.ofRaw?_toJson (hfields ("storage", storage.toJson) (by simp))
    rw [toJson, ofRaw?, choice?_tagged]
    simp -implicitDefEqProofs [fields?_raw_object, hstorage, nat?_raw_uInt8]
  | list items =>
    rw [toJson] at h
    obtain ⟨d, rfl, hitems⟩ := nesting_tagged_array_le_iff.mp h
    rw [toJson, ofRaw?, choice?_tagged]
    simp [items?_raw_array, mapM_listToJson items hv hitems]

/-- Each value of a list is read back at the depth that is left inside of the array. -/
lemma mapM_listToJson {depth : Nat} (vs : List Value) (hvs : AllFloatFree vs)
    (h : ∀ v ∈ listToJson vs, v.raw.nesting ≤ depth) :
    (itemsRaw (listToJson vs)).mapM (ofRaw? depth) = some vs := by
  match vs with
  | [] => rfl
  | v :: rest =>
    rw [listToJson, List.forall_mem_cons] at h
    rw [listToJson, itemsRaw, List.mapM_cons, ofRaw?_toJson v hvs.1 h.1,
      mapM_listToJson rest hvs.2 h.2]
    rfl

end

mutual

lemma floatFree_toJson (v : Value) (hv : v.FloatFree) : v.toJson.FloatFree := by
  match v with
  | null | boolean _ | tinyInt _ | smallInt _ | integer _ | bigInt _ | uBigInt _ | varchar _
  | date _ | time _ | timestamp _ | interval _ => simp [toJson, tagged, Json.FloatFree, jsonInt]
  | float _ | double _ => exact absurd hv id
  | decimal storage width scale =>
    simp [toJson, tagged, Json.FloatFree, jsonInt, storage.floatFree_toJson]
  | list items => simpa [toJson, tagged, Json.FloatFree] using floatFree_listToJson items hv

lemma floatFree_listToJson (vs : List Value) (hvs : AllFloatFree vs) :
    ∀ v ∈ listToJson vs, v.FloatFree := by
  match vs with
  | [] => simp [listToJson]
  | v :: rest =>
    simpa [listToJson, floatFree_toJson v hvs.1] using floatFree_listToJson rest hvs.2

end

end Value

end PlanImport.Engine
