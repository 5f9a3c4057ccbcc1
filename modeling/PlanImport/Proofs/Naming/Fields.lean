import PlanImport.Proofs.Naming.Path
import PlanImport.Proofs.Naming.Taken

/-!
# Fields of constructed structs in a flat list

The names of the fields of a constructed struct follow the flat list of names of a root as long as
the columns before the struct take all the names that their types nest, and no field but the last
one has names inside its type. Beyond that the columns take names that belong to others.
-/

namespace PlanImport

open Engine Plan

/-! ### In step with a flat list -/

/-- Siblings have different names in the types of columns. -/
def ColumnSiblingsDiffer (names : List String) (types : List SqlType) : Prop :=
  ∀ i (type : SqlType), types[i]? = some type → type.SiblingsDiffer names (flatOffset types i + 1)

/-- Columns that construct structs have the names of the fields where they stand in the flat list:
after the names of the columns before and the column's own. -/
def FieldsFollow (names : List String) (input : List SqlType) (expressions : List Expression)
    (columns : List Expr) : Prop :=
  ∀ i es, expressions[i]? = some (.nestedStruct es) → es ≠ [] →
    ∃ fields, columns[i]? = some (.struct fields) ∧ fields.length = es.length ∧
      ∀ l < fields.length, (fields.map Prod.fst)[l]? =
        names[flatOffset (Expr.typesOver input columns) i + 1 +
          flatOffset (Expr.typesOver input (fields.map Prod.snd)) l]?

/-- The columns before each constructed struct take all the names that their types nest, and of its
fields only the last one has names inside its type. -/
def InStep (input : List SqlType) (columns : List Expr) : Prop :=
  ∀ i fields, columns[i]? = some (.row fields) → fields ≠ [] →
    (∀ e ∈ columns.take i, (e.typeOver input).innerNames = e.takenNames) ∧
      ∀ e ∈ fields.dropLast, (e.typeOver input).innerNames = 0

/-- Where all names of the list differ, those of siblings do. -/
lemma columnSiblingsDiffer_of_nodup {names : List String} {types : List SqlType}
    (hn : names.Nodup) (hlen : flatLength types ≤ names.length) :
    ColumnSiblingsDiffer names types := by
  intro i type hi
  have hlt := (List.getElem?_eq_some_iff.mp hi).1
  have hend := flatOffset_succ hi
  have hle := flatOffset_le_flatLength types (i + 1)
  exact type.siblingsDiffer_of_nodup hn (by omega)

namespace InStep

variable {input : List SqlType} {columns fields : List Expr} {i j : Nat}

/-- The columns up to a struct take names where they have them. -/
lemma takenLength_eq (h : InStep input columns) (hi : columns[i]? = some (.row fields))
    (hf : fields ≠ []) (hj : j ≤ i) :
    takenLength (columns.take j) = flatOffset (Expr.typesOver input columns) j := by
  rw [flatOffset, ← Expr.typesOver_take, takenLength_eq_iff]
  intro e he
  exact (h i fields hi hf).1 e (List.take_subset_take_left _ hj he)

/-- The fields of a struct have their names next to each other. -/
lemma flatOffset_fields (h : InStep input columns) (hi : columns[i]? = some (.row fields)) :
    ∀ l < fields.length, flatOffset (Expr.typesOver input fields) l = l := by
  by_cases hf : fields = []
  · simp [hf]
  · rw [← Expr.length_typesOver input, forall_flatOffset_eq_self_iff,
      Expr.forall_dropLast_typesOver_iff]
    exact (h i fields hi hf).2

end InStep

section Lowered

variable {functions : FunctionTable} {expressions : List Expression} {rows : List Expr}
  {input : List SqlType}

/-- Up to a struct, the fields of each struct find the different names that are theirs. -/
lemma InStep.findsDistinct {names : List String} {i : Nat} {fields : List Expr}
    (h : InStep input rows) (hi : rows[i]? = some (.row fields)) (hf : fields ≠ [])
    (hlen : names.length = flatLength (Expr.typesOver input rows))
    (hd : ColumnSiblingsDiffer names
      (Expr.typesOver input ((NameStream.ofList names).nameColumns rows))) :
    (NameStream.ofList names).FindsDistinct (rows.take (i + 1)) := by
  intro j fields' hj
  rw [List.getElem?_take, Option.ite_none_right_eq_some] at hj
  obtain ⟨hlt, hj⟩ := hj
  have htaken := h.takenLength_eq hi hf (Nat.le_of_lt_succ hlt)
  rw [List.take_take, Nat.min_eq_left (Nat.le_of_lt hlt), NameStream.rest_ofList, htaken]
  -- The type of the column says that the names of the fields differ.
  obtain ⟨types, htype, htypes⟩ := NameStream.typeOver_nameColumn_row input
    ((NameStream.ofList names).passColumns (rows.take j)) fields'
  have hdj := hd j (.struct types) (by
    rw [Expr.typesOver_eq_map, List.getElem?_map, NameStream.getElem?_nameColumns, hj,
      Option.map_some, Option.map_some, htype])
  rw [SqlType.SiblingsDiffer, htypes, NameStream.flatOffset_nameColumns] at hdj
  have hle := takenLength_take_le hj
  rw [htaken, Expr.takenNames] at hle
  have hall := takenLength_le input rows
  rw [← Expr.length_typesOver input fields']
  refine nodup_of_nodup_ownNames ?_ ?_ hdj.1
  · rw [Expr.length_typesOver]
    omega
  · rw [Expr.length_typesOver]
    exact h.flatOffset_fields hj

/-- In step with the list, the fields have their names where they stand in it. -/
lemma InStep.fieldsFollow {names : List String} (hrows : lowerAll functions expressions = .ok rows)
    (h : InStep input rows) (hlen : names.length = flatLength (Expr.typesOver input rows))
    (hd : ColumnSiblingsDiffer names
      (Expr.typesOver input ((NameStream.ofList names).nameColumns rows))) :
    FieldsFollow names input expressions ((NameStream.ofList names).nameColumns rows) := by
  intro i es hi hes
  obtain ⟨fields, hrow, hcount⟩ := getElem?_lowerAll_nestedStruct hrows hi
  have hf : fields ≠ [] := by
    rintro rfl
    exact hes (List.length_eq_zero_iff.mp hcount.symm)
  have htaken := h.takenLength_eq hrow hf (Nat.le_refl i)
  have hle := takenLength_take_le hrow
  have hall := takenLength_le input rows
  have hfits : takenLength (rows.take i) + 1 + fields.length ≤ names.length := by
    rw [Expr.takenNames] at hle
    omega
  obtain ⟨named, hcolumn, hfields, hnames⟩ :=
    NameStream.exists_struct_of_nameColumns (s := .ofList names) hrow hf
      (by rwa [NameStream.rest_ofList]) (h.findsDistinct hrow hf hlen hd)
  have hlength : named.length = fields.length := by
    rw [← hfields, List.length_map]
  refine ⟨named, hcolumn, hlength.trans hcount, fun l hl => ?_⟩
  rw [hlength] at hl
  rw [hnames l hl, hfields, NameStream.rest_ofList, NameStream.flatOffset_nameColumns,
    h.flatOffset_fields hrow l hl, htaken]

/-- Columns that follow every list without repetitions are in step. -/
lemma inStep_of_fieldsFollow (hrows : lowerAll functions expressions = .ok rows)
    {names : List String} (hn : names.Nodup)
    (hlen : names.length = flatLength (Expr.typesOver input rows))
    (h : FieldsFollow names input expressions ((NameStream.ofList names).nameColumns rows)) :
    InStep input rows := by
  intro i fields hrow hf
  obtain ⟨es, hi, hcount⟩ := getElem?_lowerAll_row hrows hrow
  have hes : es ≠ [] := by
    rintro rfl
    exact hf (List.length_eq_zero_iff.mp hcount)
  have hle := takenLength_take_le hrow
  have hall := takenLength_le input rows
  rw [Expr.takenNames] at hle
  obtain ⟨named, hcolumn, hfields, hnames⟩ :=
    NameStream.exists_struct_of_nameColumns (s := .ofList names) hrow hf
      (by rw [NameStream.rest_ofList]; omega)
      fun j fields' _ => (hn.sublist (List.drop_sublist _ _)).sublist (List.take_sublist _ _)
  have hlength : named.length = fields.length := by
    rw [← hfields, List.length_map]
  obtain ⟨fs, hfs, -, hfollow⟩ := h i es hi hes
  rw [hcolumn] at hfs
  cases hfs
  -- Without repetitions a name says where it stands.
  have hplace : ∀ l < fields.length, takenLength (rows.take i) + l =
      flatOffset (Expr.typesOver input rows) i + flatOffset (Expr.typesOver input fields) l := by
    intro l hl
    have hname := hfollow l (by rwa [hlength])
    rw [hnames l hl, hfields, NameStream.rest_ofList, NameStream.flatOffset_nameColumns] at hname
    have := (List.getElem?_inj (by omega) hn).mp hname
    omega
  have hbefore : takenLength (rows.take i) = flatOffset (Expr.typesOver input rows) i := by
    have := hplace 0 (List.length_pos_iff.mpr hf)
    rwa [flatOffset_zero, Nat.add_zero] at this
  constructor
  · rw [flatOffset, ← Expr.typesOver_take] at hbefore
    exact takenLength_eq_iff.mp hbefore
  · rw [← Expr.forall_dropLast_typesOver_iff, ← forall_flatOffset_eq_self_iff]
    intro l hl
    rw [Expr.length_typesOver] at hl
    have := hplace l hl
    omega

end Lowered

/-! ### The names of fields of output columns -/

/-- The names of fields follow every flat list of names with different siblings exactly if the
columns of the projection that is handed the names are in step with such a list. -/
theorem fieldsFollow_iff_inStep {c : LoweringContext} {rel : Rel} {input : Option Rel}
    {expressions : List Expression} {n k : Nat} {r source : Relation} {rows : List Expr}
    {labels : List String} (hend : rel.namesEnd = .project input expressions)
    (h : (c.lowerRel rel none).runFrom n = (.ok r, k))
    (hr : r.projection? = some (.project source rows labels)) :
    (∀ names r' k' source' columns labels',
      (c.lowerRel rel (some names)).runFrom n = (.ok r', k') →
      r'.projection? = some (.project source' columns labels') →
      names.length = flatLength (Expr.typesOver (source'.columnTypes.getD []) columns) →
      ColumnSiblingsDiffer names (Expr.typesOver (source'.columnTypes.getD []) columns) →
      FieldsFollow names (source'.columnTypes.getD []) expressions columns) ↔
    InStep (source.columnTypes.getD []) rows := by
  obtain ⟨source', rows', hrows, hr'⟩ := c.projection?_of_lowerRel hend h
  rw [hr] at hr'
  cases hr'
  have hnamed := fun names => LoweringContext.runFrom_lowerRel_some names h
  have hpath : ∀ names, (r.nameFields names).projection? =
      some (.project source ((NameStream.ofList names).nameColumns rows)
        (placeholderNames rows.length)) := by
    intro names
    rw [Relation.projection?_nameFields, hr]
    rfl
  constructor
  · -- One list of names that all differ is enough to see where the names are taken.
    intro hall
    have hn := nodup_placeholderNames
      (flatLength (Expr.typesOver (source.columnTypes.getD []) rows))
    have hlen := length_placeholderNames
      (flatLength (Expr.typesOver (source.columnTypes.getD []) rows))
    refine inStep_of_fieldsFollow hrows hn hlen (hall _ _ _ _ _ _ (hnamed _) (hpath _) ?_ ?_)
    · rw [NameStream.flatLength_nameColumns, hlen]
    · refine columnSiblingsDiffer_of_nodup hn (Nat.le_of_eq ?_)
      rw [NameStream.flatLength_nameColumns, hlen]
  · intro hstep names r' k' source' columns labels' hr' hp hlen hd
    rw [hnamed names] at hr'
    cases hr'
    rw [hpath names] at hp
    cases hp
    rw [NameStream.flatLength_nameColumns] at hlen
    exact hstep.fieldsFollow hrows hlen hd

/-- A struct after a plain column, with a struct in its last field, is in step. -/
theorem fieldsFollow_nested_last :
    (placesContext.lowerRel
      (placesProject [inputField 1, .nestedStruct [inputField 1, inputField 0]])
      (some ["n", "s", "m", "q", "lat", "lon"])).runFrom 0 =
      (.ok (.project (.table places .acquire)
        [.column 2, .struct [("m", .column 2), ("q", .column 1)]] ["col_0", "col_1"]), 0) ∧
    FieldsFollow ["n", "s", "m", "q", "lat", "lon"] places.columnTypes
      [inputField 1, .nestedStruct [inputField 1, inputField 0]]
      [.column 2, .struct [("m", .column 2), ("q", .column 1)]] := by
  have hlower : (placesContext.lowerRel
      (placesProject [inputField 1, .nestedStruct [inputField 1, inputField 0]]) none).runFrom 0 =
      (.ok (.project (.table places .acquire) [.column 2, .row [.column 2, .column 1]]
        ["col_0", "col_1"]), 0) := rfl
  have hstep : InStep places.columnTypes [.column 2, .row [.column 2, .column 1]] := by
    rintro (_ | _ | i) fields hi -
    · cases hi
    · cases hi
      constructor
      · intro e he
        cases List.mem_singleton.mp he
        rfl
      · intro e he
        cases List.mem_singleton.mp he
        rfl
    · cases hi
  have hd : ColumnSiblingsDiffer ["n", "s", "m", "q", "lat", "lon"] (Expr.typesOver
      places.columnTypes [.column 2, .struct [("m", .column 2), ("q", .column 1)]]) :=
    columnSiblingsDiffer_of_nodup (by decide) (by decide)
  refine ⟨rfl, ?_⟩
  exact (fieldsFollow_iff_inStep rfl hlower rfl).mpr hstep _ _ _ (.table places .acquire) _ _
    rfl rfl rfl hd

/-- After a column of a struct type, a constructed struct takes names from inside that type. -/
theorem not_fieldsFollow_after_struct :
    ¬ ∀ (c : LoweringContext) (rel : Rel) (input : Option Rel) (expressions : List Expression)
      (names : List String) (n k : Nat) (r source : Relation) (columns : List Expr)
      (labels : List String), rel.namesEnd = .project input expressions →
      (c.lowerRel rel (some names)).runFrom n = (.ok r, k) →
      r.projection? = some (.project source columns labels) →
      names.length = flatLength (Expr.typesOver (source.columnTypes.getD []) columns) →
      ColumnSiblingsDiffer names (Expr.typesOver (source.columnTypes.getD []) columns) →
      FieldsFollow names (source.columnTypes.getD []) expressions columns := by
  intro h
  have hlower : (placesContext.lowerRel
      (placesProject [inputField 0, .nestedStruct [inputField 1]])
      (some ["p", "lat", "lon", "s", "x"])).runFrom 0 =
      (.ok (.project (.table places .acquire) [.column 1, .struct [("lon", .column 2)]]
        ["col_0", "col_1"]), 0) := rfl
  have hfollow := h _ _ _ _ _ _ _ _ _ _ _ rfl hlower rfl rfl
    (columnSiblingsDiffer_of_nodup (by decide) (by decide))
  obtain ⟨fields, hfields, -, hname⟩ := hfollow 1 [inputField 1] rfl (by simp)
  cases hfields
  exact absurd (hname 0 (by decide)) (by decide)

end PlanImport
