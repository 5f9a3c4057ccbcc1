import PlanImport.Proofs.Naming.Relation
import PlanImport.Proofs.Naming.Taken

/-!
# Names of the columns of a root

The projection on top of a root names each column once if the columns come from a projection, since
the names inside their types are left out then. Otherwise it takes the flat list as it is, which is
the same only if there are no names inside the types.
-/

namespace PlanImport

open Engine Plan

/-! ### Columns that come from a projection -/

namespace Engine.Relation

variable {source : Relation} {es : List Expr} {labels : List String}

lemma exists_project_of_projection? {r p : Relation} (h : r.projection? = some p) :
    ∃ source es labels, p = .project source es labels := by
  match r with
  | .project source es labels =>
    cases h
    exact ⟨source, es, labels, rfl⟩
  | .limit input .. | .sort input .. | .setOperation _ input _ =>
    rw [projection?] at h
    exact exists_project_of_projection? h
  | .table .. | .view .. | .tableFunction .. | .inline .. | .aliased .. | .filter ..
  | .aggregate .. | .join .. | .product .. | .write .. => cases h

/-- Columns of known types that come from a projection have the types that it gives them. -/
lemma columnTypes_eq_of_projection? {r : Relation} {types : List SqlType}
    (h : r.projection? = some (.project source es labels)) (ht : r.columnTypes = some types) :
    types = Expr.typesOver (source.columnTypes.getD []) es := by
  match r with
  | .project source es labels =>
    cases h
    cases ht
    rfl
  | .limit input .. | .sort input .. =>
    rw [projection?] at h
    rw [columnTypes] at ht
    exact columnTypes_eq_of_projection? h ht
  | .setOperation _ input _ => cases ht
  | .table .. | .view .. | .tableFunction .. | .inline .. | .aliased .. | .filter ..
  | .aggregate .. | .join .. | .product .. | .write .. => cases h

lemma columnNames_of_none {r : Relation} (h : r.projection? = none) (names : List String) :
    r.columnNames names = .ok names := by
  rw [columnNames, h]

lemma columnNames_of_some {r : Relation}
    (h : r.projection? = some (.project source es labels)) (names : List String) :
    r.columnNames names = pickNames (Expr.typesOver (source.columnTypes.getD []) es) names := by
  rw [columnNames, h]

/-- Only writes do not get their names on top. -/
lemma withNames_of_ne_write {r : Relation} (h : ∀ target effect, r ≠ .write target effect)
    (names : List String) : r.withNames names = r.renamed names := by
  cases r with
  | write target effect => exact absurd rfl (h target effect)
  | _ => rfl

end Engine.Relation

/-! ### The projection on top of a root -/

/-- The projection of a relation that names each of its columns once, by the name at which the names
of the column start in a flat list. -/
def NamesEach (names : List String) (types : List SqlType) (source r : Relation) : Prop :=
  ∃ labels, r = .project source ((List.range types.length).map fun i => .column (i + 1)) labels ∧
    labels.length = types.length ∧ ∀ i < types.length, labels[i]? = names[flatOffset types i]?

namespace LoweringContext

variable {c : LoweringContext} {n k : Nat}

/-- The names of a root are put on what its input is lowered to. -/
lemma runFrom_lowerRoot (root : Root) :
    (c.lowerRoot root).runFrom n =
      match (c.lowerInput "root.input" root.input (some root.names)).runFrom n with
      | (.ok r, k) => ((r.columnNames root.names).map fun names => r.withNames names, k)
      | (.error e, k) => (.error e, k) := by
  rw [lowerRoot, Lowering.runFrom_bind]
  rcases (c.lowerInput "root.input" root.input (some root.names)).runFrom n with ⟨r, k⟩
  cases r with
  | error e => rfl
  | ok r =>
    simp only [Lowering.runFrom_bind, Lowering.runFrom_lift]
    cases r.columnNames root.names <;> rfl

/-- A root of the flat length names each column once exactly if its columns come from a projection
or there are no names inside their types. -/
theorem lowerRoot_namesEach_iff {root : Root} {child : Relation} {types : List SqlType}
    (hchild : (c.lowerInput "root.input" root.input (some root.names)).runFrom n = (.ok child, k))
    (htypes : child.columnTypes = some types) (hlen : root.names.length = flatLength types) :
    (∃ r, (c.lowerRoot root).runFrom n = (.ok r, k) ∧ NamesEach root.names types child r) ↔
      child.projection?.isSome ∨ ∀ t ∈ types, t.innerNames = 0 := by
  have hwrite : ∀ target effect, child ≠ .write target effect := by
    rintro target effect rfl
    cases htypes
  rw [runFrom_lowerRoot, hchild]
  cases hp : child.projection? with
  | some p =>
    -- The names are picked by the types of the projection, which are those of the columns.
    obtain ⟨source, es, labels, rfl⟩ := Relation.exists_project_of_projection? hp
    have htypes' := Relation.columnTypes_eq_of_projection? hp htypes
    obtain ⟨own, hown⟩ := exists_pickNames (Nat.le_of_eq hlen.symm)
    obtain ⟨hcount, hnames⟩ := pickNames_eq_ok.mp hown
    simp only [Option.isSome_some, true_or, iff_true]
    refine ⟨child.renamed own, ?_, own, ?_, hcount, hnames⟩
    · rw [Relation.columnNames_of_some hp, ← htypes', hown, Except.map,
        Relation.withNames_of_ne_write hwrite]
    · rw [Relation.renamed, hcount]
  | none =>
    -- The whole list is put on the columns, so it names them once only if nothing is nested.
    simp only [Option.isSome_none, Bool.false_eq_true, false_or]
    rw [Relation.columnNames_of_none hp, Except.map, Relation.withNames_of_ne_write hwrite,
      ← flatLength_eq_length_iff, ← hlen]
    constructor
    · rintro ⟨r, hr, labels, hr', hcount, -⟩
      cases hr
      rw [Relation.renamed, Relation.project.injEq] at hr'
      obtain ⟨-, -, rfl⟩ := hr'
      exact hcount
    · intro hcount
      refine ⟨_, rfl, root.names, by rw [Relation.renamed, hcount], hcount, fun i hi => ?_⟩
      have hflat := flatLength_eq_length_iff.mp (hlen.symm.trans hcount)
      rw [(flatOffset_eq_self_iff (Nat.le_of_lt hi)).mpr fun t ht =>
        hflat t (List.mem_of_mem_take ht)]

/-- The columns of a projection are named once each, also where there are names inside the type of
one. -/
theorem lowerRoot_namesEach_project :
    ∃ r, (placesContext.lowerRoot ⟨some (placesProject [inputField 0, inputField 1]),
        ["p", "lat", "lon", "n"]⟩).runFrom 0 = (.ok r, 0) ∧
      NamesEach ["p", "lat", "lon", "n"] places.columnTypes
        (.project (.table places .acquire) [.column 1, .column 2] ["col_0", "col_1"]) r :=
  (lowerRoot_namesEach_iff rfl rfl rfl).mpr (.inl rfl)

/-- A scan of the same columns gets a column for each name inside a type, beyond the last one. -/
theorem not_namesEach_scan :
    ¬ ∀ (c : LoweringContext) (root : Root) (n k k' : Nat) (child r : Relation)
      (types : List SqlType),
      (c.lowerRoot root).runFrom n = (.ok r, k') →
      (c.lowerInput "root.input" root.input (some root.names)).runFrom n = (.ok child, k) →
      child.columnTypes = some types → root.names.length = flatLength types →
      NamesEach root.names types child r := by
  intro h
  have hroot : (placesContext.lowerRoot ⟨some placesRead, ["p", "lat", "lon", "n"]⟩).runFrom 0 =
      (.ok (.project (.table places .acquire) [.column 1, .column 2, .column 3, .column 4]
        ["p", "lat", "lon", "n"]), 0) := rfl
  obtain ⟨labels, hr, -, -⟩ := h _ _ _ _ _ _ _ _ hroot rfl rfl rfl
  cases hr

end LoweringContext

end PlanImport
