import Mathlib.Data.List.Forall2
import PlanImport.Json.Raw

/-!
# Values of texts

A text has a value if all of its parts have one. How deeply it may nest does not matter for the
value as long as it nests no deeper.
-/

namespace PlanImport.Json.Raw

variable {depth : Nat} {closed : Bool} {v : Raw} {p : Option String × Raw} {items : List Raw}
  {members : List (Option String × Raw)} {j : Json} {js : List Json} {jms : List (String × Json)}

/-! ### Parts of a value -/

lemma value?_array_eq_some_iff : (array items closed).value? depth = some j ↔
    depth ≠ 0 ∧ closed = true ∧ ∃ js, values? (depth - 1) items = some js ∧ j = .array js := by
  by_cases h : depth = 0 <;> cases closed <;> simp [value?, h, @eq_comm _ j]

lemma value?_object_eq_some_iff : (object members closed).value? depth = some j ↔
    depth ≠ 0 ∧ closed = true ∧
      ∃ jms, memberValues? (depth - 1) members = some jms ∧ j = .ofMembers jms := by
  by_cases h : depth = 0 <;> cases closed <;> simp [value?, h, @eq_comm _ j]

lemma values?_cons_eq_some_iff : values? depth (v :: items) = some js ↔
    ∃ j, v.value? depth = some j ∧ ∃ rest, values? depth items = some rest ∧ js = j :: rest := by
  rw [values?]
  cases v.value? depth with
  | none => simp
  | some j => cases values? depth items <;> simp [eq_comm]

lemma memberValues?_cons_eq_some_iff : memberValues? depth (p :: members) = some jms ↔
    ∃ j, p.1 = some j.1 ∧ p.2.value? depth = some j.2 ∧
      ∃ rest, memberValues? depth members = some rest ∧ jms = j :: rest := by
  obtain ⟨key, v⟩ := p
  cases hkey : key <;> cases hv : v.value? depth <;> cases hrest : memberValues? depth members <;>
    simp [memberValues?, hv, hrest, eq_comm]

/-- Items have values if each of them has one. -/
lemma values?_eq_some_iff :
    values? depth items = some js ↔ List.Forall₂ (fun v j => v.value? depth = some j) items js := by
  induction items generalizing js with
  | nil => simp [values?, eq_comm]
  | cons v items ih =>
    rw [values?_cons_eq_some_iff, List.forall₂_cons_left_iff]
    simp only [ih, exists_and_left]

/-- Members have values if each of them has a key and a value. -/
lemma memberValues?_eq_some_iff : memberValues? depth members = some jms ↔
    List.Forall₂ (fun p j => p.1 = some j.1 ∧ p.2.value? depth = some j.2) members jms := by
  induction members generalizing jms with
  | nil => simp [memberValues?, eq_comm]
  | cons p members ih =>
    rw [memberValues?_cons_eq_some_iff, List.forall₂_cons_left_iff]
    simp only [ih, exists_and_left, and_assoc]

lemma length_values? (h : values? depth items = some js) : js.length = items.length :=
  (values?_eq_some_iff.mp h).length_eq.symm

lemma getElem?_values? {i : Nat} (h : values? depth items = some js) (hj : js[i]? = some j) :
    ∃ v, items[i]? = some v ∧ v.value? depth = some j := by
  obtain ⟨hlength, hget⟩ := List.forall₂_iff_get.mp (values?_eq_some_iff.mp h)
  obtain ⟨hi, rfl⟩ := List.getElem?_eq_some_iff.mp hj
  exact ⟨_, List.getElem?_eq_getElem (hlength ▸ hi), hget i _ hi⟩

/-- Items have values exactly if each of them has one. -/
lemma exists_values?_iff :
    (∃ js, values? depth items = some js) ↔ ∀ v ∈ items, ∃ j, v.value? depth = some j := by
  induction items with
  | nil => simp [values?]
  | cons v items ih =>
    rw [List.forall_mem_cons, ← ih]
    simp only [values?_cons_eq_some_iff]
    constructor
    · rintro ⟨_, j, hj, rest, hrest, -⟩
      exact ⟨⟨j, hj⟩, rest, hrest⟩
    · rintro ⟨⟨j, hj⟩, rest, hrest⟩
      exact ⟨j :: rest, j, hj, rest, hrest, rfl⟩

/-- Members have values exactly if each of them has a key with a text and a value. -/
lemma exists_memberValues?_iff : (∃ jms, memberValues? depth members = some jms) ↔
    ∀ p ∈ members, ∃ j : String × Json, p.1 = some j.1 ∧ p.2.value? depth = some j.2 := by
  induction members with
  | nil => simp [memberValues?]
  | cons p members ih =>
    rw [List.forall_mem_cons, ← ih]
    simp only [memberValues?_cons_eq_some_iff]
    constructor
    · rintro ⟨_, j, hkey, hj, rest, hrest, -⟩
      exact ⟨⟨j, hkey, hj⟩, rest, hrest⟩
    · rintro ⟨⟨j, hkey, hj⟩, rest, hrest⟩
      exact ⟨j :: rest, j, hkey, hj, rest, hrest, rfl⟩

lemma exists_value?_array_iff : (∃ j, (array items true).value? (depth + 1) = some j) ↔
    ∀ v ∈ items, ∃ j, v.value? depth = some j := by
  rw [← exists_values?_iff]
  simp [value?_array_eq_some_iff]

lemma exists_value?_object_iff : (∃ j, (object members true).value? (depth + 1) = some j) ↔
    ∀ p ∈ members, ∃ j : String × Json, p.1 = some j.1 ∧ p.2.value? depth = some j.2 := by
  rw [← exists_memberValues?_iff]
  simp [value?_object_eq_some_iff]

/-- The members that are known are those of the text with their values. -/
lemma mem_memberValues?_iff {j : String × Json} (h : memberValues? depth members = some jms) :
    j ∈ jms ↔ ∃ p ∈ members, p.1 = some j.1 ∧ p.2.value? depth = some j.2 := by
  induction members generalizing jms with
  | nil =>
    cases h
    simp
  | cons p members ih =>
    obtain ⟨j', hkey, hj', rest, hrest, rfl⟩ := memberValues?_cons_eq_some_iff.mp h
    rw [List.mem_cons, ih hrest, List.exists_mem_cons_iff, hkey, hj', Option.some.injEq,
      Option.some.injEq, ← Prod.ext_iff, eq_comm]

/-- The keys of the members stay as they are in the text. -/
lemma map_fst_of_memberValues? (h : memberValues? depth members = some jms) :
    members.map Prod.fst = jms.map fun j => some j.1 := by
  induction members generalizing jms with
  | nil =>
    cases h
    rfl
  | cons p members ih =>
    obtain ⟨j, hkey, -, rest, hrest, rfl⟩ := memberValues?_cons_eq_some_iff.mp h
    rw [List.map_cons, hkey, ih hrest, List.map_cons]

lemma filterMap_fst_of_memberValues? (h : memberValues? depth members = some jms) :
    members.filterMap Prod.fst = jms.map Prod.fst := by
  have hid : members.filterMap Prod.fst = (members.map Prod.fst).filterMap id := by
    rw [List.filterMap_map, Function.id_comp]
  rw [hid, map_fst_of_memberValues? h, List.filterMap_map]
  exact congrFun List.filterMap_eq_map' jms

/-! ### Whole values -/

lemma areWhole_iff : areWhole items = true ↔ ∀ v ∈ items, v.isWhole = true := by
  induction items with
  | nil => simp [areWhole]
  | cons v items ih => simp [areWhole, ih]

lemma membersAreWhole_iff : membersAreWhole members = true ↔ ∀ p ∈ members, p.2.isWhole = true := by
  induction members with
  | nil => simp [membersAreWhole]
  | cons p members ih => simp [membersAreWhole, ih]

mutual

/-- What has a value is whole. -/
lemma isWhole_of_value? {depth : Nat} {v : Raw} {j : Json} (h : v.value? depth = some j) :
    v.isWhole = true := by
  match v with
  | .null | .bool _ | .number _ | .string _ => rfl
  | .broken => cases h
  | .array items closed =>
    obtain ⟨-, hclosed, js, hjs, -⟩ := value?_array_eq_some_iff.mp h
    rw [isWhole, hclosed, areWhole_of_values? hjs, Bool.and_self]
  | .object members closed =>
    obtain ⟨-, hclosed, jms, hjms, -⟩ := value?_object_eq_some_iff.mp h
    rw [isWhole, hclosed, membersAreWhole_of_memberValues? hjms, Bool.and_self]

lemma areWhole_of_values? {depth : Nat} {items : List Raw} {js : List Json}
    (h : values? depth items = some js) : areWhole items = true := by
  match items with
  | [] => rfl
  | v :: items =>
    obtain ⟨j, hj, rest, hrest, -⟩ := values?_cons_eq_some_iff.mp h
    rw [areWhole, isWhole_of_value? hj, areWhole_of_values? hrest, Bool.and_self]

lemma membersAreWhole_of_memberValues? {depth : Nat} {members : List (Option String × Raw)}
    {jms : List (String × Json)} (h : memberValues? depth members = some jms) :
    membersAreWhole members = true := by
  match members with
  | [] => rfl
  | (key, v) :: members =>
    obtain ⟨j, -, hj, rest, hrest, -⟩ := memberValues?_cons_eq_some_iff.mp h
    rw [membersAreWhole, isWhole_of_value? hj, membersAreWhole_of_memberValues? hrest,
      Bool.and_self]

end

/-! ### Nesting -/

mutual

/-- How many arrays and objects are nested one in the other in a value, itself included. -/
def nesting : Raw → Nat
  | array items _ => itemsNesting items + 1
  | object members _ => membersNesting members + 1
  | _ => 0

def itemsNesting : List Raw → Nat
  | [] => 0
  | v :: rest => max v.nesting (itemsNesting rest)

def membersNesting : List (Option String × Raw) → Nat
  | [] => 0
  | (_, v) :: rest => max v.nesting (membersNesting rest)

end

/-- The depth of a container bounds that of its members. -/
lemma nesting_le_of_mem {p : Option String × Raw} (h : p ∈ members) :
    p.2.nesting ≤ membersNesting members := by
  induction members with
  | nil => cases h
  | cons q members ih =>
    rcases List.mem_cons.mp h with rfl | h
    · exact Nat.le_max_left _ _
    · exact Nat.le_trans (ih h) (Nat.le_max_right _ _)

mutual

/-- Where a value fits, it does not matter how much deeper it might be. -/
lemma value?_eq_of_nesting_le {depth depth' : Nat} (v : Raw) (h : v.nesting ≤ depth)
    (h' : v.nesting ≤ depth') : v.value? depth = v.value? depth' := by
  match v with
  | .null | .bool _ | .number _ | .string _ | .broken => rfl
  | .array items closed =>
    obtain ⟨n, rfl⟩ := Nat.exists_eq_add_of_lt (Nat.lt_of_succ_le h)
    obtain ⟨n', rfl⟩ := Nat.exists_eq_add_of_lt (Nat.lt_of_succ_le h')
    simp [value?, values?_eq_of_nesting_le items (Nat.le_add_right _ n) (Nat.le_add_right _ n')]
  | .object members closed =>
    obtain ⟨n, rfl⟩ := Nat.exists_eq_add_of_lt (Nat.lt_of_succ_le h)
    obtain ⟨n', rfl⟩ := Nat.exists_eq_add_of_lt (Nat.lt_of_succ_le h')
    simp [value?, memberValues?_eq_of_nesting_le members (Nat.le_add_right _ n)
      (Nat.le_add_right _ n')]

/-- Where the depth is enough, how much of it is left does not matter. -/
lemma values?_eq_of_nesting_le {depth depth' : Nat} (items : List Raw)
    (h : itemsNesting items ≤ depth) (h' : itemsNesting items ≤ depth') :
    values? depth items = values? depth' items := by
  match items with
  | [] => rfl
  | v :: items =>
    rw [itemsNesting, Nat.max_le] at h h'
    rw [values?, values?, value?_eq_of_nesting_le v h.1 h'.1,
      values?_eq_of_nesting_le items h.2 h'.2]

lemma memberValues?_eq_of_nesting_le {depth depth' : Nat} (members : List (Option String × Raw))
    (h : membersNesting members ≤ depth) (h' : membersNesting members ≤ depth') :
    memberValues? depth members = memberValues? depth' members := by
  match members with
  | [] => rfl
  | (key, v) :: members =>
    rw [membersNesting, Nat.max_le] at h h'
    have hv := value?_eq_of_nesting_le v h.1 h'.1
    have hmembers := memberValues?_eq_of_nesting_le members h.2 h'.2
    ext jms
    simp only [memberValues?_cons_eq_some_iff, hv, hmembers]

end

end PlanImport.Json.Raw
