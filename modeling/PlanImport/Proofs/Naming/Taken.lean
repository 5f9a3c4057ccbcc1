import PlanImport.Proofs.Naming.Columns
import PlanImport.Proofs.Naming.FlatList
import PlanImport.Proofs.Naming.NameStream

/-!
# Names that columns take

The columns of a projection go through the flat list of names as if each column had its own name
there, and a constructed struct one more name for each of its fields. That is never more than the
types of the columns nest.
-/

namespace PlanImport

open Engine Plan

/-! ### Names for fields -/

namespace NameStream

variable {s s' : NameStream} {count : Nat} {names : List String}

/-- Fields take the next names if there is one and these are enough and differ. -/
lemma fieldNames?_eq_some_iff :
    s.fieldNames? count = some (names, s') ↔
      s.position < s.names.length ∧ s.position + count ≤ s.names.length ∧
        (s.rest.take count).Nodup ∧ names = s.rest.take count ∧ s' = s.pass count := by
  have hdone : (!s.isDone) = true ↔ s.position < s.names.length := by
    simp [isDone]
  unfold fieldNames?
  split_ifs with h
  · rw [Bool.and_eq_true, hdone, hasDistinct_iff] at h
    rw [take?_eq_some_iff]
    tauto
  · rw [Bool.and_eq_true, hdone, hasDistinct_iff] at h
    simp only [false_iff]
    tauto

lemma fieldNames?_eq_some (hpos : 0 < count) (hlen : count ≤ s.rest.length)
    (hd : (s.rest.take count).Nodup) :
    s.fieldNames? count = some (s.rest.take count, s.pass count) := by
  rw [rest, List.length_drop] at hlen
  exact fieldNames?_eq_some_iff.mpr ⟨by omega, by omega, hd, rfl, rfl⟩

lemma length_fieldNames? (h : s.fieldNames? count = some (names, s')) : names.length = count := by
  obtain ⟨-, hle, -, rfl, -⟩ := fieldNames?_eq_some_iff.mp h
  rw [List.length_take, rest, List.length_drop]
  omega

end NameStream

/-! ### Names that columns take -/

namespace Engine

/-- The number of names that a column takes besides its own. -/
def Expr.takenNames : Expr → Nat
  | row fields => fields.length
  | _ => 0

/-- The number of names that columns take. -/
def takenLength : List Expr → Nat
  | [] => 0
  | e :: es => 1 + e.takenNames + takenLength es

@[simp] lemma takenLength_nil : takenLength [] = 0 := rfl

@[simp] lemma takenLength_cons (e : Expr) (es : List Expr) :
    takenLength (e :: es) = 1 + e.takenNames + takenLength es := rfl

/-- The names of a column are among those that all columns take. -/
lemma takenLength_take_le {es : List Expr} {i : Nat} {e : Expr} (h : es[i]? = some e) :
    takenLength (es.take i) + 1 + e.takenNames ≤ takenLength es := by
  induction es generalizing i with
  | nil => simp at h
  | cons e' es ih =>
    cases i with
    | zero =>
      cases h
      simp
    | succ i =>
      have := ih h
      rw [List.take_succ_cons, takenLength_cons, takenLength_cons]
      omega

end Engine

namespace NameStream

variable {s : NameStream}

/-- Each constructed struct finds different names for its fields when the columns before it have
taken theirs. -/
def FindsDistinct (s : NameStream) (es : List Expr) : Prop :=
  ∀ i fields, es[i]? = some (.row fields) →
    ((s.rest.drop (takenLength (es.take i) + 1)).take fields.length).Nodup

lemma FindsDistinct.tail {e : Expr} {es : List Expr} (h : s.FindsDistinct (e :: es)) :
    (s.pass (1 + e.takenNames)).FindsDistinct es := by
  intro i fields hi
  have := h (i + 1) fields (by simpa using hi)
  rwa [List.take_succ_cons, takenLength_cons, Nat.add_assoc, ← List.drop_drop, ← rest_pass] at this

/-- A column takes its own name, and the names of its fields if it finds different ones. -/
lemma nameColumn_row {fields : List Expr} (hf : fields ≠ [])
    (hlen : 1 + fields.length ≤ s.rest.length)
    (hd : ((s.rest.drop 1).take fields.length).Nodup) :
    s.nameColumn (.row fields) =
      (.struct (((s.rest.drop 1).take fields.length).zip fields), s.pass (1 + fields.length)) := by
  have hnames := s.skip.fieldNames?_eq_some (List.length_pos_iff.mpr hf)
    (by rw [skip_eq_pass, rest_pass, List.length_drop]; omega)
    (by rwa [skip_eq_pass, rest_pass])
  rw [nameColumn, hnames, skip_eq_pass, rest_pass, pass_pass]

/-- A column takes its own name, and those of its fields if they are there and differ. -/
lemma snd_nameColumn (e : Expr) (hlen : 1 + e.takenNames ≤ s.rest.length)
    (hd : ∀ fields, e = .row fields → ((s.rest.drop 1).take fields.length).Nodup) :
    (s.nameColumn e).2 = s.pass (1 + e.takenNames) := by
  by_cases he : ∃ fields, e = .row fields
  · obtain ⟨fields, rfl⟩ := he
    by_cases hf : fields = []
    · subst hf
      rw [nameColumn]
      split
      · rename_i names rest h
        exact (fieldNames?_eq_some_iff.mp h).2.2.2.2
      · rfl
    · rw [nameColumn_row hf hlen (hd fields rfl)]
      rfl
  · rw [nameColumn_of_ne_row s fun fields h => he ⟨fields, h⟩]
    cases e with
    | row fields => exact absurd ⟨fields, rfl⟩ he
    | _ => rfl

/-- Columns that find different names for their fields take them all. -/
lemma passColumns_eq {es : List Expr} (hlen : takenLength es ≤ s.rest.length)
    (h : s.FindsDistinct es) : s.passColumns es = s.pass (takenLength es) := by
  induction es generalizing s with
  | nil => rfl
  | cons e es ih =>
    rw [takenLength_cons] at hlen ⊢
    have hhead := s.snd_nameColumn e (by omega) fun fields he => by
      subst he
      exact h 0 fields rfl
    rw [passColumns_cons, hhead, ih _ h.tail, pass_pass]
    rw [rest_pass, List.length_drop]
    omega

lemma FindsDistinct.take {es : List Expr} (h : s.FindsDistinct es) (i : Nat) :
    s.FindsDistinct (es.take i) := by
  intro j fields hj
  rw [List.getElem?_take, Option.ite_none_right_eq_some] at hj
  obtain ⟨hlt, hj⟩ := hj
  rw [List.take_take, Nat.min_eq_left (Nat.le_of_lt hlt)]
  exact h j fields hj

/-- A constructed struct among such columns has the names after those of the columns before it. -/
lemma getElem?_nameColumns_row {es fields : List Expr} {i : Nat} (hi : es[i]? = some (.row fields))
    (hf : fields ≠ []) (hlen : takenLength (es.take i) + 1 + fields.length ≤ s.rest.length)
    (h : s.FindsDistinct (es.take (i + 1))) :
    (s.nameColumns es)[i]? = some (.struct
      (((s.rest.drop (takenLength (es.take i) + 1)).take fields.length).zip fields)) := by
  have hbefore : s.passColumns (es.take i) = s.pass (takenLength (es.take i)) := by
    have := h.take i
    rw [List.take_take, Nat.min_eq_left (Nat.le_succ i)] at this
    exact passColumns_eq (by omega) this
  have hd := h i fields (by rw [List.getElem?_take_of_lt (Nat.lt_succ_self i), hi])
  rw [List.take_take, Nat.min_eq_left (Nat.le_succ i), ← List.drop_drop, ← rest_pass] at hd
  rw [getElem?_nameColumns, hi, Option.map_some, hbefore, nameColumn_row hf _ hd, rest_pass,
    List.drop_drop]
  rw [rest_pass, List.length_drop]
  omega

/-- Where the fields of a constructed struct have their names in a list. -/
lemma exists_struct_of_nameColumns {es fields : List Expr} {i : Nat}
    (hi : es[i]? = some (.row fields)) (hf : fields ≠ [])
    (hlen : takenLength (es.take i) + 1 + fields.length ≤ s.rest.length)
    (h : s.FindsDistinct (es.take (i + 1))) :
    ∃ named, (s.nameColumns es)[i]? = some (.struct named) ∧ named.map Prod.snd = fields ∧
      ∀ l < fields.length,
        (named.map Prod.fst)[l]? = s.rest[takenLength (es.take i) + 1 + l]? := by
  have hcount : ((s.rest.drop (takenLength (es.take i) + 1)).take fields.length).length =
      fields.length := by
    rw [List.length_take, List.length_drop]
    omega
  refine ⟨_, getElem?_nameColumns_row hi hf hlen h,
    List.map_snd_zip (Nat.le_of_eq hcount.symm), fun l hl => ?_⟩
  rw [List.map_fst_zip (Nat.le_of_eq hcount), List.getElem?_take_of_lt hl, List.getElem?_drop]

end NameStream

/-! ### Names that the types of columns nest -/

namespace Engine

variable {input : List SqlType}

lemma Expr.typesOver_eq_map (input : List SqlType) (es : List Expr) :
    Expr.typesOver input es = es.map (Expr.typeOver input) := by
  induction es with
  | nil => rfl
  | cons e es ih => rw [Expr.typesOver, ih, List.map_cons]

@[simp] lemma Expr.length_typesOver (input : List SqlType) (es : List Expr) :
    (Expr.typesOver input es).length = es.length := by
  rw [Expr.typesOver_eq_map, List.length_map]

lemma Expr.typesOver_take (input : List SqlType) (es : List Expr) (i : Nat) :
    Expr.typesOver input (es.take i) = (Expr.typesOver input es).take i := by
  rw [Expr.typesOver_eq_map, Expr.typesOver_eq_map, List.map_take]

lemma Expr.forall_dropLast_typesOver_iff {es : List Expr} :
    (∀ t ∈ (Expr.typesOver input es).dropLast, t.innerNames = 0) ↔
      ∀ e ∈ es.dropLast, (e.typeOver input).innerNames = 0 := by
  rw [Expr.typesOver_eq_map, ← List.map_dropLast, List.forall_mem_map]

lemma Expr.map_snd_numbered (n : Nat) (types : List SqlType) :
    (Expr.typeOver.numbered n types).map Prod.snd = types := by
  induction types generalizing n with
  | nil => rfl
  | cons t types ih => rw [Expr.typeOver.numbered, List.map_cons, ih]

lemma Expr.map_snd_fieldTypes (input : List SqlType) (fields : List (String × Expr)) :
    (Expr.fieldTypes input fields).map Prod.snd = Expr.typesOver input (fields.map Prod.snd) := by
  induction fields with
  | nil => rfl
  | cons field fields ih =>
    obtain ⟨name, e⟩ := field
    rw [Expr.fieldTypes, List.map_cons, ih, List.map_cons, Expr.typesOver]

lemma Expr.innerNames_row (input : List SqlType) (fields : List Expr) :
    ((Expr.row fields).typeOver input).innerNames = flatLength (Expr.typesOver input fields) := by
  rw [Expr.typeOver, SqlType.innerNames, SqlType.fieldNames_eq, Expr.map_snd_numbered]

/-- A column takes no more names than its type nests. -/
lemma Expr.takenNames_le (input : List SqlType) (e : Expr) :
    e.takenNames ≤ (e.typeOver input).innerNames := by
  cases e with
  | row fields =>
    rw [Expr.takenNames, Expr.innerNames_row]
    have := length_le_flatLength (Expr.typesOver input fields)
    rwa [Expr.length_typesOver] at this
  | _ => exact Nat.zero_le _

/-- Columns take no more names than their types nest, as a struct takes only those of its own fields
and not the names inside their types. -/
lemma takenLength_le (input : List SqlType) (es : List Expr) :
    takenLength es ≤ flatLength (Expr.typesOver input es) := by
  induction es with
  | nil => exact Nat.le_refl 0
  | cons e es ih =>
    have := e.takenNames_le input
    rw [takenLength_cons, Expr.typesOver, flatLength_cons]
    omega

/-- Columns take as many names as they have in a flat list exactly if each of them does. -/
lemma takenLength_eq_iff {es : List Expr} :
    takenLength es = flatLength (Expr.typesOver input es) ↔
      ∀ e ∈ es, (e.typeOver input).innerNames = e.takenNames := by
  induction es with
  | nil => simp [Expr.typesOver]
  | cons e es ih =>
    have := e.takenNames_le input
    have := takenLength_le input es
    rw [takenLength_cons, Expr.typesOver, flatLength_cons, List.forall_mem_cons, ← ih]
    omega

end Engine

namespace NameStream

variable {input : List SqlType} {s : NameStream}

/-- A constructed struct has a type with the types of its fields in it, named or not. -/
lemma typeOver_nameColumn_row (input : List SqlType) (s : NameStream) (fields : List Expr) :
    ∃ types, (s.nameColumn (.row fields)).1.typeOver input = .struct types ∧
      types.map Prod.snd = Expr.typesOver input fields := by
  obtain h | ⟨_, names, rest, hrow, hnames, h⟩ := s.fst_nameColumn (.row fields)
  · rw [h]
    exact ⟨_, by rw [Expr.typeOver], Expr.map_snd_numbered _ _⟩
  · cases hrow
    rw [h]
    refine ⟨_, by rw [Expr.typeOver], ?_⟩
    rw [Expr.map_snd_fieldTypes, List.map_snd_zip (Nat.le_of_eq (length_fieldNames? hnames).symm)]

lemma innerNames_nameColumn (input : List SqlType) (s : NameStream) (e : Expr) :
    ((s.nameColumn e).1.typeOver input).innerNames = (e.typeOver input).innerNames := by
  by_cases he : ∃ fields, e = .row fields
  · obtain ⟨fields, rfl⟩ := he
    obtain ⟨types, htype, htypes⟩ := typeOver_nameColumn_row input s fields
    rw [htype, SqlType.innerNames, SqlType.fieldNames_eq, htypes, Expr.innerNames_row]
  · rw [nameColumn_of_ne_row s fun fields h => he ⟨fields, h⟩]

/-- Names of fields change no place in a flat list. -/
lemma flatOffset_nameColumns (input : List SqlType) (s : NameStream) (es : List Expr) (i : Nat) :
    flatOffset (Expr.typesOver input (s.nameColumns es)) i =
      flatOffset (Expr.typesOver input es) i := by
  induction es generalizing s i with
  | nil => rfl
  | cons e es ih =>
    cases i with
    | zero => rfl
    | succ i =>
      simp only [nameColumns_cons, Expr.typesOver, flatOffset_cons_succ, innerNames_nameColumn, ih]

lemma flatLength_nameColumns (input : List SqlType) (s : NameStream) (es : List Expr) :
    flatLength (Expr.typesOver input (s.nameColumns es)) =
      flatLength (Expr.typesOver input es) := by
  rw [← flatOffset_length, ← flatOffset_length, Expr.length_typesOver, Expr.length_typesOver,
    length_nameColumns, flatOffset_nameColumns]

lemma forall_dropLast_nameColumns_iff {es : List Expr} :
    (∀ t ∈ (Expr.typesOver input (s.nameColumns es)).dropLast, t.innerNames = 0) ↔
      ∀ e ∈ es.dropLast, (e.typeOver input).innerNames = 0 := by
  rw [← Expr.forall_dropLast_typesOver_iff, ← forall_flatOffset_eq_self_iff,
    ← forall_flatOffset_eq_self_iff]
  simp only [Expr.length_typesOver, length_nameColumns, flatOffset_nameColumns]

end NameStream

end PlanImport
