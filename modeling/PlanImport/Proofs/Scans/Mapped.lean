import PlanImport.Lowering.Root
import PlanImport.Proofs.Naming.Root

/-!
# Other scans in place of those of a relation

The scans are the leaves of a relation. When each is exchanged for one of the same kind with the
same columns, nothing that is asked of the relation has another answer: neither the types and names
of its columns nor whether something can be deleted from it.
-/

namespace PlanImport

open Engine Plan

namespace Engine

/-! ### The exchange of scans -/

mutual

/-- A relation with other scans: a table, a view, an inline table, and a call of a table function
together with the name that it is given. -/
def Relation.mapScans (f : Relation → Relation) : Relation → Relation
  | .aliased name (.tableFunction function parameters namedParameters lock) =>
    f (.aliased name (.tableFunction function parameters namedParameters lock))
  | .table info lock => f (.table info lock)
  | .view info lock => f (.view info lock)
  | .tableFunction function parameters namedParameters lock =>
    f (.tableFunction function parameters namedParameters lock)
  | .inline rows lock => f (.inline rows lock)
  | .aliased name input => .aliased name (input.mapScans f)
  | .filter input condition => .filter (input.mapScans f) condition
  | .project input expressions names => .project (input.mapScans f) expressions names
  | .aggregate input expressions groups => .aggregate (input.mapScans f) expressions groups
  | .join left right condition kind =>
    .join (left.mapScans f) (right.mapScans f) condition kind
  | .product left right => .product (left.mapScans f) (right.mapScans f)
  | .limit input limit offset => .limit (input.mapScans f) limit offset
  | .sort input keys => .sort (input.mapScans f) keys
  | .setOperation left right op => .setOperation (left.mapScans f) (right.mapScans f) op
  | .write target effect => .write target (effect.mapScans f)

def WriteEffect.mapScans (f : Relation → Relation) : WriteEffect → WriteEffect
  | .createTableAs input => .createTableAs (input.mapScans f)
  | .insert input => .insert (input.mapScans f)
  | .delete condition => .delete condition

end

/-- Each relation is taken to one of the same operator with columns of the same types. -/
structure KeepsShape (f : Relation → Relation) : Prop where
  operator : ∀ r, (f r).operator = r.operator
  columnTypes : ∀ r, (f r).columnTypes = r.columnTypes

namespace Relation

variable {f g k : Relation → Relation}

lemma mapScans_aliased (f : Relation → Relation) (name : String) (r : Relation) :
    (aliased name r).mapScans f =
      if r.operator = "TableFunction" then f (aliased name r) else aliased name (r.mapScans f) := by
  cases r with
  | tableFunction => rfl
  | _ => rw [mapScans.eq_def, if_neg (by simp [operator])]

mutual

lemma mapScans_id (r : Relation) : r.mapScans id = r := by
  match r with
  | .table .. | .view .. | .tableFunction .. | .inline .. => rfl
  | .aliased name input =>
    rw [mapScans_aliased, mapScans_id input]
    exact ite_self _
  | .filter input _ | .project input _ _ | .aggregate input _ _ | .limit input _ _
  | .sort input _ => rw [mapScans, mapScans_id input]
  | .join left right _ _ | .product left right | .setOperation left right _ =>
    rw [mapScans, mapScans_id left, mapScans_id right]
  | .write target effect => rw [mapScans, WriteEffect.mapScans_id effect]

lemma WriteEffect.mapScans_id (effect : WriteEffect) : effect.mapScans id = effect := by
  match effect with
  | .createTableAs input | .insert input => rw [WriteEffect.mapScans, mapScans_id input]
  | .delete condition => rfl

end

/-! ### What is asked of a relation -/

section

variable (hf : KeepsShape f)
include hf

/-- The kind of a relation is left as it is, be it a scan or not. -/
lemma operator_mapScans (r : Relation) : (r.mapScans f).operator = r.operator := by
  cases r with
  | table | view | tableFunction | inline => exact hf.operator _
  | aliased name input =>
    rw [mapScans_aliased]
    split_ifs
    · exact hf.operator _
    · rfl
  | _ => rfl

/-- Columns keep their types, which are asked of scans only through `KeepsShape`. -/
lemma columnTypes_mapScans (r : Relation) : (r.mapScans f).columnTypes = r.columnTypes := by
  match r with
  | .table .. | .view .. | .tableFunction .. | .inline .. => exact hf.columnTypes _
  | .aliased name input =>
    rw [mapScans_aliased]
    split_ifs
    · exact hf.columnTypes _
    · rw [columnTypes, columnTypes_mapScans input, columnTypes]
  | .filter input _ | .limit input _ _ | .sort input _ | .project input _ _
  | .aggregate input _ _ =>
    rw [mapScans, columnTypes, columnTypes_mapScans input, columnTypes]
  | .join left right _ _ | .product left right =>
    rw [mapScans, columnTypes, columnTypes_mapScans left, columnTypes_mapScans right, columnTypes]
  | .setOperation .. | .write .. => rfl

end

lemma isScan_aliased (name : String) {r : Relation} (h : r.operator = "TableFunction") :
    (aliased name r).isScan = true := by
  cases r with
  | tableFunction => rfl
  | _ => simp [operator] at h

mutual

/-- Two exchanges one after the other are the one that they are for each scan. -/
lemma mapScans_mapScans (hf : KeepsShape f)
    (hscan : ∀ r, r.isScan = true ∨ r.operator = "TableFunction" → (f r).mapScans g = k r)
    (r : Relation) : (r.mapScans f).mapScans g = r.mapScans k := by
  match r with
  | .table .. | .view .. | .inline .. => exact hscan _ (.inl rfl)
  | .tableFunction .. => exact hscan _ (.inr rfl)
  | .aliased name input =>
    rw [mapScans_aliased, mapScans_aliased]
    by_cases hinput : input.operator = "TableFunction"
    · rw [if_pos hinput, if_pos hinput]
      exact hscan _ (.inl (isScan_aliased name hinput))
    · rw [if_neg hinput, if_neg hinput, mapScans_aliased, operator_mapScans hf, if_neg hinput,
        mapScans_mapScans hf hscan input]
  | .filter input _ | .project input _ _ | .aggregate input _ _ | .limit input _ _
  | .sort input _ => simp only [mapScans, mapScans_mapScans hf hscan input]
  | .join left right _ _ | .product left right | .setOperation left right _ =>
    simp only [mapScans, mapScans_mapScans hf hscan left, mapScans_mapScans hf hscan right]
  | .write target effect =>
    simp only [mapScans, WriteEffect.mapScans_mapScans hf hscan effect]

lemma WriteEffect.mapScans_mapScans (hf : KeepsShape f)
    (hscan : ∀ r, r.isScan = true ∨ r.operator = "TableFunction" → (f r).mapScans g = k r)
    (effect : WriteEffect) : (effect.mapScans f).mapScans g = effect.mapScans k := by
  match effect with
  | .createTableAs input | .insert input =>
    simp only [WriteEffect.mapScans, mapScans_mapScans hf hscan input]
  | .delete condition => rfl

end

/-- The projection that columns come from is found on the same way. -/
lemma projection?_mapScans (hf : KeepsShape f) (r : Relation) :
    (r.mapScans f).projection? = r.projection?.map (mapScans f) := by
  match r with
  | .project .. => rfl
  | .limit input _ _ | .sort input _ | .setOperation _ input _ =>
    rw [mapScans, projection?, projection?_mapScans hf input, projection?]
  | .table .. | .view .. | .tableFunction .. | .inline .. | .aliased .. | .filter ..
  | .aggregate .. | .join .. | .product .. | .write .. =>
    exact projection?_eq_none (by rw [operator_mapScans hf]; simp [operator])

/-- The columns get the same names out of a flat list. -/
lemma columnNames_mapScans (hf : KeepsShape f) (r : Relation) (names : List String) :
    (r.mapScans f).columnNames names = r.columnNames names := by
  cases hp : r.projection? with
  | none =>
    have hnone : (r.mapScans f).projection? = none := by
      rw [projection?_mapScans hf, hp]
      rfl
    rw [columnNames_of_none hnone, columnNames_of_none hp]
  | some p =>
    obtain ⟨source, es, labels, rfl⟩ := exists_project_of_projection? hp
    have hsome : (r.mapScans f).projection? = some (.project (source.mapScans f) es labels) := by
      rw [projection?_mapScans hf, hp]
      rfl
    rw [columnNames_of_some hsome, columnNames_of_some hp, columnTypes_mapScans hf]

/-- The projection that names the columns is put on the other scans alike. -/
lemma withNames_mapScans (hf : KeepsShape f) (r : Relation) (names : List String) :
    (r.mapScans f).withNames names = (r.withNames names).mapScans f := by
  by_cases hr : r.operator = "Write"
  · cases r with
    | write target effect => cases effect <;> rfl
    | _ => simp [operator] at hr
  · have hne : ∀ target effect, r ≠ .write target effect := by
      rintro target effect rfl
      exact hr rfl
    have hne' : ∀ target effect, r.mapScans f ≠ .write target effect := by
      intro target effect h
      rw [← operator_mapScans hf, h] at hr
      exact hr rfl
    rw [withNames_of_ne_write hne, withNames_of_ne_write hne']
    rfl

end Relation

/-! ### Deletes -/

/-- Whether rows can be deleted is asked of the operators alone. -/
lemma writeEffect_delete_filter (input : Relation) (condition : Expr) :
    writeEffect 2 (.filter input condition) =
      if input.operator = "Table" then .ok (.delete condition)
      else .error (.unimplemented (.deleteOver "Filter")) := by
  cases input <;> rfl

lemma writeEffect_delete_of_ne_filter {r : Relation} (h : r.operator ≠ "Filter") :
    writeEffect 2 r = .error (.unimplemented (.deleteOver r.operator)) := by
  cases r with
  | filter => exact absurd rfl h
  | _ => rfl

/-- A write does the same with other scans. -/
lemma writeEffect_mapScans {f : Relation → Relation} (hf : KeepsShape f) (op : Int32)
    (r : Relation) :
    writeEffect op (r.mapScans f) = (writeEffect op r).map (WriteEffect.mapScans f) := by
  by_cases hop : op = 2
  · subst hop
    by_cases hr : r.operator = "Filter"
    · cases r with
      | filter input condition =>
        rw [Relation.mapScans, writeEffect_delete_filter, writeEffect_delete_filter,
          Relation.operator_mapScans hf]
        split_ifs <;> rfl
      | _ => simp [Relation.operator] at hr
    · rw [writeEffect_delete_of_ne_filter hr, writeEffect_delete_of_ne_filter,
        Relation.operator_mapScans hf]
      · rfl
      · rwa [Relation.operator_mapScans hf]
  · unfold writeEffect
    split_ifs <;> rfl

end Engine

end PlanImport
