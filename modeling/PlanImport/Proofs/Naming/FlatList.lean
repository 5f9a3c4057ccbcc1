import Mathlib.Data.List.Nodup
import PlanImport.Lowering.Root
import PlanImport.Proofs.Lowering.Run

/-!
# Places in a flat list of names

In a flat list the names of a column start where those of the columns before it end: its own name
comes first and the names inside its type follow. The same holds of the fields of a struct.
-/

namespace PlanImport

open Engine Plan

namespace Engine

/-! ### Places -/

/-- The number of names that columns of the given types have in a flat list. -/
def flatLength : List SqlType → Nat
  | [] => 0
  | t :: types => 1 + t.innerNames + flatLength types

/-- Where the names of the column at a place start in a flat list. -/
def flatOffset (types : List SqlType) (i : Nat) : Nat := flatLength (types.take i)

variable {types : List SqlType} {i j : Nat}

@[simp] lemma flatLength_nil : flatLength [] = 0 := rfl

@[simp] lemma flatLength_cons (t : SqlType) (types : List SqlType) :
    flatLength (t :: types) = 1 + t.innerNames + flatLength types := rfl

@[simp] lemma flatOffset_zero (types : List SqlType) : flatOffset types 0 = 0 := rfl

@[simp] lemma flatOffset_cons_succ (t : SqlType) (types : List SqlType) (i : Nat) :
    flatOffset (t :: types) (i + 1) = 1 + t.innerNames + flatOffset types i := by
  simp [flatOffset]

lemma flatOffset_length (types : List SqlType) :
    flatOffset types types.length = flatLength types := by
  rw [flatOffset, List.take_length]

/-- The names of a column end where those of the next one start. -/
lemma flatOffset_succ {t : SqlType} (h : types[i]? = some t) :
    flatOffset types (i + 1) = flatOffset types i + 1 + t.innerNames := by
  induction types generalizing i with
  | nil => simp at h
  | cons t' types ih =>
    cases i with
    | zero =>
      cases h
      simp
    | succ i =>
      rw [flatOffset_cons_succ, flatOffset_cons_succ, ih h]
      omega

/-- Each column takes at least its own name, so later columns start later. -/
lemma flatOffset_lt (hij : i < j) (hj : j ≤ types.length) :
    flatOffset types i < flatOffset types j := by
  induction j with
  | zero => cases hij
  | succ j ih =>
    have hs := flatOffset_succ (List.getElem?_eq_getElem (show j < types.length from hj))
    rcases Nat.lt_or_eq_of_le (Nat.le_of_lt_succ hij) with h | rfl
    · have := ih h (Nat.le_of_succ_le hj)
      omega
    · omega

lemma flatOffset_le_flatLength (types : List SqlType) (i : Nat) :
    flatOffset types i ≤ flatLength types := by
  induction types generalizing i with
  | nil => simp [flatOffset]
  | cons t types ih =>
    cases i with
    | zero => exact Nat.zero_le _
    | succ i =>
      have := ih i
      rw [flatOffset_cons_succ, flatLength_cons]
      omega

lemma flatOffset_lt_flatLength (h : i < types.length) :
    flatOffset types i < flatLength types := by
  rw [← flatOffset_length]
  exact flatOffset_lt h (Nat.le_refl _)

/-- So different columns have their names at different places. -/
lemma flatOffset_inj (hi : i < types.length) (hj : j < types.length)
    (h : flatOffset types i = flatOffset types j) : i = j := by
  rcases Nat.lt_trichotomy i j with hij | hij | hij
  · have := flatOffset_lt hij (Nat.le_of_lt hj)
    omega
  · exact hij
  · have := flatOffset_lt hij (Nat.le_of_lt hi)
    omega

lemma length_le_flatLength (types : List SqlType) : types.length ≤ flatLength types := by
  induction types with
  | nil => simp
  | cons t types ih =>
    simp only [List.length_cons, flatLength_cons]
    omega

/-- Columns have one name each exactly if there are no names inside their types. -/
lemma flatLength_eq_length_iff :
    flatLength types = types.length ↔ ∀ t ∈ types, t.innerNames = 0 := by
  induction types with
  | nil => simp
  | cons t types ih =>
    have := length_le_flatLength types
    simp only [List.length_cons, flatLength_cons, List.forall_mem_cons, ← ih]
    omega

lemma le_flatOffset (h : i ≤ types.length) : i ≤ flatOffset types i := by
  have := length_le_flatLength (types.take i)
  rwa [List.length_take_of_le h] at this

lemma flatOffset_eq_self_iff (h : i ≤ types.length) :
    flatOffset types i = i ↔ ∀ t ∈ types.take i, t.innerNames = 0 := by
  rw [← flatLength_eq_length_iff, List.length_take_of_le h, flatOffset]

/-- The names of columns stand next to each other exactly if no type but the last one has names
inside it. -/
lemma forall_flatOffset_eq_self_iff :
    (∀ i < types.length, flatOffset types i = i) ↔ ∀ t ∈ types.dropLast, t.innerNames = 0 := by
  rw [List.dropLast_eq_take]
  constructor
  · intro h
    rcases types with _ | ⟨t, types⟩
    · simp
    · exact (flatOffset_eq_self_iff (Nat.sub_le _ _)).mp (h _ (by simp))
  · intro h i hi
    refine (flatOffset_eq_self_iff (Nat.le_of_lt hi)).mpr fun t ht => h t ?_
    exact (List.take_subset_take_left _ (Nat.le_sub_one_of_lt hi)) ht

lemma SqlType.fieldNames_eq (fields : List (String × SqlType)) :
    SqlType.fieldNames fields = flatLength (fields.map Prod.snd) := by
  induction fields with
  | nil => rfl
  | cons field fields ih =>
    obtain ⟨name, t⟩ := field
    simp [SqlType.fieldNames, ih]

/-! ### Names of columns -/

lemma getElem?_cons_offset (name : String) (names : List String) (skipped i : Nat) :
    (name :: names)[1 + skipped + i]? = (names.drop skipped)[i]? := by
  rw [List.getElem?_drop, Nat.add_assoc, Nat.add_comm 1, List.getElem?_cons_succ]

/-- Every column gets the name at which its names start. -/
lemma pickNames_eq_ok {names own : List String} :
    pickNames types names = .ok own ↔
      own.length = types.length ∧ ∀ i < types.length, own[i]? = names[flatOffset types i]? := by
  induction types generalizing names own with
  | nil => simp [pickNames, eq_comm]
  | cons t types ih =>
    rcases names with _ | ⟨name, names⟩
    · simp only [pickNames, reduceCtorEq, false_iff, not_and, List.getElem?_nil]
      intro hl h
      have := h 0 (by simp)
      simp_all
    · rw [pickNames, map_eq_ok]
      simp only [ih]
      constructor
      · rintro ⟨own, ⟨hl, hi⟩, rfl⟩
        refine ⟨by simp [hl], fun i hlt => ?_⟩
        cases i with
        | zero => simp
        | succ i =>
          rw [List.getElem?_cons_succ, hi i (Nat.lt_of_succ_lt_succ hlt), flatOffset_cons_succ,
            getElem?_cons_offset]
      · rintro ⟨hl, hi⟩
        have h0 : own[0]? = some name := by simpa using hi 0 (by simp)
        rcases own with _ | ⟨first, own⟩
        · simp at h0
        · cases h0
          refine ⟨own, ⟨by simpa using hl, fun i hlt => ?_⟩, rfl⟩
          have := hi (i + 1) (Nat.succ_lt_succ hlt)
          rwa [List.getElem?_cons_succ, flatOffset_cons_succ, getElem?_cons_offset] at this

/-- Names are picked exactly if the list has a place for the name of each column. -/
lemma exists_pickNames_iff {names : List String} :
    (∃ own, pickNames types names = .ok own) ↔
      ∀ i < types.length, flatOffset types i < names.length := by
  constructor
  · rintro ⟨own, hown⟩ i hi
    obtain ⟨hcount, hnames⟩ := pickNames_eq_ok.mp hown
    have hname := hnames i hi
    rw [List.getElem?_eq_getElem (by rwa [hcount])] at hname
    exact (List.getElem?_eq_some_iff.mp hname.symm).1
  · intro h
    induction types generalizing names with
    | nil => exact ⟨[], rfl⟩
    | cons t types ih =>
      rcases names with _ | ⟨name, names⟩
      · exact absurd (h 0 (by simp)) (Nat.not_lt_zero _)
      · have hrest : ∀ i < types.length, flatOffset types i < (names.drop t.innerNames).length := by
          intro i hi
          have := h (i + 1) (Nat.succ_lt_succ hi)
          rw [flatOffset_cons_succ, List.length_cons] at this
          rw [List.length_drop]
          omega
        obtain ⟨own, hown⟩ := ih hrest
        exact ⟨name :: own, map_eq_ok.mpr ⟨own, hown, rfl⟩⟩

/-- A list of the flat length has a name for every column. -/
lemma exists_pickNames {names : List String} (h : flatLength types ≤ names.length) :
    ∃ own, pickNames types names = .ok own :=
  exists_pickNames_iff.mpr fun _ hi => Nat.lt_of_lt_of_le (flatOffset_lt_flatLength hi) h

/-- The list itself is picked exactly if the names of the columns stand next to each other and make
up the list. -/
lemma pickNames_eq_self_iff {names : List String} :
    pickNames types names = .ok names ↔
      types.length = names.length ∧ ∀ t ∈ types.dropLast, t.innerNames = 0 := by
  rw [pickNames_eq_ok, eq_comm]
  constructor
  · rintro ⟨hcount, h⟩
    refine ⟨hcount, ?_⟩
    rcases types with _ | ⟨t, types⟩
    · simp
    -- The last column has a name in the list, so that it starts no later than at its own place.
    · have hname := h types.length (by simp)
      rw [List.getElem?_eq_getElem (by simp [← hcount])] at hname
      have hlt := (List.getElem?_eq_some_iff.mp hname.symm).1
      have hle := @le_flatOffset (t :: types) types.length (by simp)
      have hplace : flatOffset (t :: types) types.length = types.length := by
        rw [← hcount, List.length_cons] at hlt
        omega
      rw [List.dropLast_eq_take]
      exact (flatOffset_eq_self_iff (Nat.sub_le _ _)).mp hplace
  · rintro ⟨hcount, h⟩
    refine ⟨hcount, fun i hi => ?_⟩
    rw [forall_flatOffset_eq_self_iff.mpr h i hi]

/-! ### Names of siblings -/

/-- The names of columns of the given types in a flat list in which they start at `start`, if
there are that many. -/
def ownNames (names : List String) (start : Nat) (types : List SqlType) : List (Option String) :=
  (List.range types.length).map fun i => names[start + flatOffset types i]?

mutual

/-- Fields of the same struct have different names, in a type whose inner names start at `start`
in a flat list. -/
def SqlType.SiblingsDiffer (names : List String) : SqlType → Nat → Prop
  | .struct fields, start =>
    (ownNames names start (fields.map Prod.snd)).Nodup ∧ FieldSiblingsDiffer names fields start
  | _, _ => True

def FieldSiblingsDiffer (names : List String) : List (String × SqlType) → Nat → Prop
  | [], _ => True
  | (_, type) :: rest, start =>
    type.SiblingsDiffer names (start + 1) ∧
      FieldSiblingsDiffer names rest (start + 1 + type.innerNames)

end

/-- The names of columns are at different places of the list. -/
lemma nodup_ownNames {names : List String} (hn : names.Nodup) {start : Nat}
    (h : start + flatLength types ≤ names.length) : (ownNames names start types).Nodup := by
  refine List.Nodup.map_on ?_ List.nodup_range
  intro i hi j hj hij
  rw [List.mem_range] at hi hj
  have hlt := flatOffset_lt_flatLength hi
  have heq := (List.getElem?_inj (by omega) hn).mp hij
  exact flatOffset_inj hi hj (by omega)

/-- Names that stand next to each other are a part of the list. -/
lemma nodup_of_nodup_ownNames {names : List String} {start : Nat}
    (hlen : start + types.length ≤ names.length)
    (h : ∀ i < types.length, flatOffset types i = i) (hn : (ownNames names start types).Nodup) :
    ((names.drop start).take types.length).Nodup := by
  have hown : ownNames names start types = ((names.drop start).take types.length).map some := by
    apply List.ext_getElem?
    intro i
    rcases Nat.lt_or_ge i types.length with hi | hi
    · rw [ownNames, List.getElem?_map, List.getElem?_range hi, Option.map_some, h i hi,
        List.getElem?_map, List.getElem?_take_of_lt hi, List.getElem?_drop,
        List.getElem?_eq_getElem (by omega), Option.map_some]
    · rw [List.getElem?_eq_none (by simpa [ownNames] using hi), List.getElem?_eq_none]
      rw [List.length_map, List.length_take]
      omega
  rw [hown] at hn
  exact hn.of_map

mutual

/-- In a list without repetitions all siblings differ. -/
lemma SqlType.siblingsDiffer_of_nodup {names : List String} (hn : names.Nodup) :
    ∀ (type : SqlType) {start : Nat}, start + type.innerNames ≤ names.length →
      type.SiblingsDiffer names start
  | .struct fields, start, h => by
    rw [SqlType.innerNames] at h
    rw [SqlType.SiblingsDiffer]
    refine ⟨nodup_ownNames hn ?_, fieldSiblingsDiffer_of_nodup hn fields h⟩
    rwa [← SqlType.fieldNames_eq]
  | .sqlNull, _, _ | .unknown, _, _ | .boolean, _, _ | .tinyInt, _, _ | .smallInt, _, _
  | .integer, _, _ | .bigInt, _, _ | .uBigInt, _, _ | .float, _, _ | .double, _, _
  | .decimal .., _, _ | .date, _, _ | .time, _, _ | .timestamp, _, _ | .interval, _, _
  | .varchar, _, _ | .list _, _, _ | .map .., _, _ => by simp [SqlType.SiblingsDiffer]

lemma fieldSiblingsDiffer_of_nodup {names : List String} (hn : names.Nodup) :
    ∀ (fields : List (String × SqlType)) {start : Nat},
      start + SqlType.fieldNames fields ≤ names.length → FieldSiblingsDiffer names fields start
  | [], _, _ => by simp [FieldSiblingsDiffer]
  | (_, type) :: rest, start, h => by
    rw [SqlType.fieldNames] at h
    rw [FieldSiblingsDiffer]
    exact ⟨type.siblingsDiffer_of_nodup hn (by omega),
      fieldSiblingsDiffer_of_nodup hn rest (by omega)⟩

end

lemma length_placeholderNames (count : Nat) : (placeholderNames count).length = count := by
  rw [placeholderNames, List.length_map, List.length_range]

/-- The names of columns that are computed differ. -/
lemma nodup_placeholderNames (count : Nat) : (placeholderNames count).Nodup := by
  refine List.Nodup.map ?_ List.nodup_range
  intro i j h
  have hdigits : Text.digits i = Text.digits j :=
    String.ofList_injective ((String.append_right_inj "col_").mp h)
  rw [← Nat.ofDigitChars_ten_toDigits (n := i), ← Nat.ofDigitChars_ten_toDigits (n := j)]
  exact congrArg (fun ds => Nat.ofDigitChars 10 ds 0) hdigits

end Engine

/-! ### A table with names inside the type of a column -/

/-- A table with a column of two named fields and a plain one. -/
def places : TableInfo :=
  ⟨"main", "places", [⟨"p", .struct [("lat", .double), ("lon", .double)]⟩, ⟨"n", .integer⟩]⟩

/-- A context in which that table is the only one. -/
def placesContext : LoweringContext where
  functions := .empty
  catalog := Catalog.empty.insertTable places
  acquireLock := true
  defaultSchema := "main"

def placesRead : Rel := .read ⟨.namedTable ["places"], none, []⟩

def placesProject (expressions : List Expression) : Rel := .project (some placesRead) expressions

/-- A column of the input of a projection, counted from zero. -/
def inputField (i : Int32) : Expression := .selection (.structField i false)

end PlanImport
