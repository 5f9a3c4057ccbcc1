import PlanImport.Json.Fields
import PlanImport.Proofs.Json.Printed
import PlanImport.Proofs.Json.Values

/-!
# Typed readers of printed values

What the typed readers make of values that have been printed: of a record its fields, of an array
its items and of an integer this integer, as long as the values nest no deeper than the reader may
go.
-/

namespace PlanImport.Json

variable {α : Type} {depth : Nat} {name s : String} {v argument : Json} {items : List Json}
  {members : List (String × Json)} {n : Int}

lemma membersRaw_eq_map (members : List (String × Json)) :
    membersRaw members = members.map fun m => (some m.1, m.2.raw) := by
  induction members with
  | nil => rfl
  | cons m members ih => rw [membersRaw, ih, List.map_cons]

namespace Raw

/-! ### Nesting -/

lemma itemsNesting_itemsRaw_le_iff :
    itemsNesting (itemsRaw items) ≤ depth ↔ ∀ v ∈ items, v.raw.nesting ≤ depth := by
  induction items with
  | nil => simp [itemsRaw, itemsNesting]
  | cons v items ih => rw [itemsRaw, itemsNesting, Nat.max_le, ih, List.forall_mem_cons]

lemma membersNesting_membersRaw_le_iff :
    membersNesting (membersRaw members) ≤ depth ↔ ∀ m ∈ members, m.2.raw.nesting ≤ depth := by
  induction members with
  | nil => simp [membersRaw, membersNesting]
  | cons m members ih => rw [membersRaw, membersNesting, Nat.max_le, ih, List.forall_mem_cons]

/-- What can be entered is an array whose items nest less deeply. -/
lemma nesting_array_le_iff : (Json.array items).raw.nesting ≤ depth ↔
    ∃ d, depth = d + 1 ∧ ∀ v ∈ items, v.raw.nesting ≤ d := by
  rw [raw, nesting]
  cases depth with
  | zero => simp
  | succ d => simp [itemsNesting_itemsRaw_le_iff]

lemma nesting_object_le_iff : (Json.object members).raw.nesting ≤ depth ↔
    ∃ d, depth = d + 1 ∧ ∀ m ∈ members, m.2.raw.nesting ≤ d := by
  rw [raw, nesting]
  cases depth with
  | zero => simp
  | succ d => simp [membersNesting_membersRaw_le_iff]

/-! ### Records and arrays -/

lemma items?_raw_array : (Json.array items).raw.items? (depth + 1) = some (itemsRaw items) := rfl

/-- Members of distinct names among those of a record are the fields of this record. -/
lemma areFields_membersRaw (h : (members.map Prod.fst).Nodup) {names : List String}
    (hnames : ∀ m ∈ members, m.1 ∈ names) : areFields names (membersRaw members) = true := by
  induction members with
  | nil => rfl
  | cons m members ih =>
    obtain ⟨key, v⟩ := m
    rw [List.map_cons, List.nodup_cons] at h
    have hkey : names.contains key := by simpa using hnames (key, v) List.mem_cons_self
    rw [membersRaw, areFields, if_pos hkey, ih h.2 fun m hm => hnames m (List.mem_cons_of_mem _ hm),
      Bool.and_true, membersRaw_eq_map, List.all_map, List.all_eq_true]
    intro m hm
    simp only [Function.comp_apply, decide_eq_true_eq, ne_eq, Option.some.injEq]
    intro heq
    exact h.1 (List.mem_map.mpr ⟨m, hm, heq⟩)

/-- With distinct names the member that is found is the one that is there. -/
lemma lookup_membersRaw (h : (members.map Prod.fst).Nodup) {m : String × Json} (hm : m ∈ members) :
    (membersRaw members).lookup (some m.1) = some m.2.raw := by
  induction members with
  | nil => cases hm
  | cons m' members ih =>
    rw [List.map_cons, List.nodup_cons] at h
    rw [membersRaw, List.lookup_cons]
    rcases List.mem_cons.mp hm with rfl | hm
    · simp
    · have hne : m.1 ≠ m'.1 := fun heq => h.1 (List.mem_map.mpr ⟨m, hm, heq⟩)
      rw [beq_eq_false_iff_ne.mpr (by simpa using hne)]
      exact ih h.2 hm

/-- The fields of a record are its members in their order. -/
lemma fields?_raw_object {names : List String} (hnames : members.map Prod.fst = names)
    (h : names.Nodup) : (Json.object members).raw.fields? names (depth + 1) =
      some (members.map fun m => some m.2.raw) := by
  subst hnames
  have hfields : areFields (members.map Prod.fst) (membersRaw members) = true :=
    areFields_membersRaw h fun m hm => List.mem_map_of_mem hm
  rw [raw, fields?, if_pos ⟨Nat.succ_ne_zero depth, hfields⟩, List.map_map]
  congr 1
  exact List.map_congr_left fun m hm => lookup_membersRaw h hm

/-- A list is read back if each of its items is. -/
lemma mapM_itemsRaw_map {read : Raw → Option α} {toJson : α → Json} {as : List α}
    (h : ∀ a ∈ as, read (toJson a).raw = some a) :
    (itemsRaw (as.map toJson)).mapM read = some as := by
  induction as with
  | nil => rfl
  | cons a as ih =>
    rw [List.map_cons, itemsRaw, List.mapM_cons, h a List.mem_cons_self,
      ih fun a' ha' => h a' (List.mem_cons_of_mem _ ha')]
    rfl

/-! ### Strings, truth values and integers -/

lemma text?_raw_string : (Json.string s).raw.text? = some s := rfl

lemma bool?_raw_bool {b : Bool} : (Json.bool b).raw.bool? = some b := rfl

lemma int?_ofInt {lo hi : Int} (h : lo ≤ n) (h' : n ≤ hi)
    (hlo : -0x8000000000000000 ≤ lo) (hhi : hi < 0x10000000000000000) :
    (number (.ofInt n)).int? lo hi = some n := by
  rw [int?, Numeral.number?_ofInt (by omega) (by omega)]
  exact if_pos ⟨h, h'⟩

lemma int128?_ofInt (n : Int128) : (number (.ofInt n.toInt)).int128? = some n := by
  rw [int128?, Numeral.int?_ofInt]
  exact n.ofInt?_toInt

end Raw

end PlanImport.Json
