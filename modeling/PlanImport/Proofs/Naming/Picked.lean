import PlanImport.Proofs.Naming.Root

/-!
# Names picked out of a flat list

A flat list is made of columns by writing down the name of each one and behind it the names inside
its type. Picking names for the columns of a projection undoes this: it ends with the names of the
columns, whatever the list goes on with, and is refused exactly if the list ends before the name of
the last column.
-/

namespace PlanImport

open Engine Plan

namespace Engine

/-! ### Flat lists of columns -/

mutual

/-- The names inside a type, each in front of those inside its own type. -/
def SqlType.nestedNames : SqlType → List String
  | .struct fields => flatNames fields
  | _ => []

/-- The flat list of named columns, which is also that of the fields of a struct. -/
def flatNames : List (String × SqlType) → List String
  | [] => []
  | (name, type) :: columns => name :: (type.nestedNames ++ flatNames columns)

end

mutual

/-- There are as many names inside a type as are counted there. -/
lemma SqlType.length_nestedNames (type : SqlType) :
    type.nestedNames.length = type.innerNames := by
  match type with
  | .struct fields =>
    rw [SqlType.nestedNames, length_flatNames fields, SqlType.innerNames]
  | .sqlNull | .unknown | .boolean | .tinyInt | .smallInt | .integer | .bigInt | .uBigInt
  | .float | .double | .decimal .. | .date | .time | .timestamp | .interval | .varchar | .list _
  | .map .. => rfl

/-- A flat list has a name for each column and for each field in its type. -/
lemma length_flatNames (columns : List (String × SqlType)) :
    (flatNames columns).length = SqlType.fieldNames columns := by
  match columns with
  | [] => rfl
  | (name, type) :: columns =>
    rw [flatNames, List.length_cons, List.length_append, SqlType.length_nestedNames type,
      length_flatNames columns, SqlType.fieldNames]
    omega

end

/-! ### Picking names -/

variable {types : List SqlType} {names own : List String}

/-- A flat list goes on to the name of the last column of the given types. -/
def ReachesLast (types : List SqlType) (names : List String) : Prop :=
  types = [] ∨ flatOffset types (types.length - 1) < names.length

/-- The columns in front of the last one have their names in front of its name. -/
lemma reachesLast_iff :
    ReachesLast types names ↔ ∀ i < types.length, flatOffset types i < names.length := by
  constructor
  · rintro (rfl | hlast) i hi
    · cases hi
    · refine Nat.lt_of_le_of_lt ?_ hlast
      rcases Nat.lt_or_eq_of_le (Nat.le_sub_one_of_lt hi) with h | rfl
      · exact Nat.le_of_lt (flatOffset_lt h (Nat.sub_le _ _))
      · exact Nat.le_refl _
  · intro h
    rcases types with _ | ⟨t, types⟩
    · exact .inl rfl
    · exact .inr (h _ (by simp))

/-- There is no other refusal than that of a list that is too short. -/
lemma eq_namesExhausted_of_pickNames {e : Refusal} (h : pickNames types names = .error e) :
    e = .namesExhausted := by
  induction types generalizing names with
  | nil => cases h
  | cons t types ih =>
    rcases names with _ | ⟨name, names⟩
    · cases h
      rfl
    · rw [pickNames] at h
      cases hrest : pickNames types (names.drop t.innerNames) with
      | ok own =>
        rw [hrest] at h
        cases h
      | error e' =>
        rw [hrest] at h
        cases h
        exact ih hrest

lemma pickNames_eq_error_iff :
    pickNames types names = .error .namesExhausted ↔ ¬ ReachesLast types names := by
  rw [reachesLast_iff, ← exists_pickNames_iff]
  cases h : pickNames types names with
  | ok own => simp
  | error e => simp [eq_namesExhausted_of_pickNames h]

/-- What a list goes on with behind the name of the last column is not looked at. -/
lemma pickNames_append (h : pickNames types names = .ok own) (more : List String) :
    pickNames types (names ++ more) = .ok own := by
  have hreach := exists_pickNames_iff.mp ⟨own, h⟩
  obtain ⟨hcount, hnames⟩ := pickNames_eq_ok.mp h
  refine pickNames_eq_ok.mpr ⟨hcount, fun i hi => ?_⟩
  rw [hnames i hi, List.getElem?_append_left (hreach i hi)]

/-- The names of columns are picked out of their flat list. -/
lemma pickNames_flatNames (columns : List (String × SqlType)) :
    pickNames (columns.map Prod.snd) (flatNames columns) = .ok (columns.map Prod.fst) := by
  induction columns with
  | nil => rfl
  | cons column columns ih =>
    obtain ⟨name, type⟩ := column
    rw [flatNames, List.map_cons, pickNames, ← SqlType.length_nestedNames, List.drop_left, ih]
    rfl

/-- How the columns of a relation get their names out of a flat list, where they are computed by the
given expressions from columns of the known types. -/
structure PicksNames (r : Relation) (known : List SqlType) (es : List Expr) : Prop where
  /-- It is enough that the list goes on to the name of the last column. -/
  exists_iff : ∀ names, (∃ own, r.columnNames names = .ok own) ↔
    ReachesLast (es.map (Expr.typeOver known)) names
  /-- A list that does not is refused. -/
  exhausted_iff : ∀ names, r.columnNames names = .error .namesExhausted ↔
    ¬ ReachesLast (es.map (Expr.typeOver known)) names
  /-- There is one name for each expression, the one at the place where the names of the column
  start. -/
  names : ∀ names own, r.columnNames names = .ok own →
    own.length = es.length ∧
      ∀ i < es.length, own[i]? = names[flatOffset (es.map (Expr.typeOver known)) i]?
  /-- More names behind the list make no difference. -/
  append : ∀ names more own, r.columnNames names = .ok own →
    r.columnNames (names ++ more) = .ok own
  /-- A list that starts with the flat list of named columns gives their names. -/
  flat : ∀ columns names, columns.map Prod.snd = es.map (Expr.typeOver known) →
    flatNames columns <+: names → r.columnNames names = .ok (columns.map Prod.fst)
  /-- The names that are left out behind that of a column are those inside its type. -/
  skipped : ∀ type : SqlType, type.nestedNames.length = type.innerNames

namespace Relation

variable {r source : Relation} {es : List Expr} {labels : List String}

/-- The columns that come from a projection get their names out of a flat list, and only a list that
is too short is refused. -/
theorem columnNames_picksNames (h : r.projection? = some (.project source es labels)) :
    PicksNames r (source.columnTypes.getD []) es where
  exists_iff names := by
    rw [columnNames_of_some h, exists_pickNames_iff, Expr.typesOver_eq_map, reachesLast_iff]
  exhausted_iff names := by
    rw [columnNames_of_some h, pickNames_eq_error_iff, Expr.typesOver_eq_map]
  names names own hown := by
    rw [columnNames_of_some h, pickNames_eq_ok, Expr.typesOver_eq_map, List.length_map] at hown
    exact hown
  append names more own hown := by
    rw [columnNames_of_some h] at hown ⊢
    exact pickNames_append hown more
  flat columns names htypes hprefix := by
    obtain ⟨more, rfl⟩ := hprefix
    rw [columnNames_of_some h, Expr.typesOver_eq_map, ← htypes]
    exact pickNames_append (pickNames_flatNames columns) more
  skipped := SqlType.length_nestedNames

/-- Both columns of the places, put into one between them. -/
def arrangedPlaces : Relation :=
  .project (.table places .acquire) [.column 2, .row [.column 1, .column 2], .column 1]
    ["col_0", "col_1", "col_2"]

/-- Under a limit the names inside the type of a column are left out as well, and behind the name of
the last column nothing is missed. -/
theorem columnNames_picksNames_limit :
    (limit arrangedPlaces (some 3) 0).projection? = some arrangedPlaces ∧
    PicksNames (limit arrangedPlaces (some 3) 0) places.columnTypes
      [.column 2, .row [.column 1, .column 2], .column 1] ∧
    (limit arrangedPlaces (some 3) 0).columnNames
      ["n", "q", "1", "lat", "lon", "2", "p", "lat", "lon"] = .ok ["n", "q", "p"] ∧
    (limit arrangedPlaces (some 3) 0).columnNames ["n", "q", "1", "lat", "lon", "2", "p"] =
      .ok ["n", "q", "p"] ∧
    (limit arrangedPlaces (some 3) 0).columnNames ["n", "q", "1", "lat", "lon", "2"] =
      .error .namesExhausted := by
  have h : (limit arrangedPlaces (some 3) 0).projection? = some arrangedPlaces := rfl
  exact ⟨h, columnNames_picksNames h, rfl, rfl, rfl⟩

end Relation

end Engine

end PlanImport
