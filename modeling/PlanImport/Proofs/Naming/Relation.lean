import PlanImport.Lowering.Root
import PlanImport.Proofs.Lowering.Read
import PlanImport.Proofs.Lowering.Rel
import PlanImport.Proofs.Naming.Columns

/-!
# Names of fields in relations

The names of output columns are handed down along one path, from a relation through limits, sorts
and the right inputs of set operations. The lowering of a relation with names is the lowering
without names, followed by a pass along this path that names the fields of the projection at its
end. So names change neither what is refused nor how scans are numbered.
-/

namespace PlanImport

open Engine Plan

/-! ### The pass -/

namespace Engine.Relation

/-- A relation whose constructed output columns take the names of their fields out of a list. -/
def nameFields (names : List String) : Relation → Relation
  | project input es labels => project input ((NameStream.ofList names).nameColumns es) labels
  | limit input count offset => limit (input.nameFields names) count offset
  | sort input keys => sort (input.nameFields names) keys
  | setOperation left right op => setOperation left (right.nameFields names) op
  | r => r

/-- The projection at the end of the path is the one that gets the names. -/
lemma projection?_nameFields (names : List String) (r : Relation) :
    (r.nameFields names).projection? = r.projection?.map (nameFields names) := by
  match r with
  | project input es labels => rfl
  | limit input count offset => exact projection?_nameFields names input
  | sort input keys => exact projection?_nameFields names input
  | setOperation left right op => exact projection?_nameFields names right
  | table .. | view .. | tableFunction .. | inline .. | aliased .. | filter .. | aggregate ..
  | join .. | product .. | write .. => rfl

/-- Only limits, sorts and set operations hand the question for a projection on. -/
lemma projection?_eq_none {r : Relation}
    (h : r.operator ∉ ["Project", "Limit", "Order", "SetOp"]) : r.projection? = none := by
  cases r with
  | project | limit | sort | setOperation => simp [operator] at h
  | _ => rfl

/-- What is no projection, limit, sort or set operation has no path. -/
lemma nameFields_of_operator (names : List String) {r : Relation}
    (h : r.operator ∉ ["Project", "Limit", "Order", "SetOp"]) : r.nameFields names = r := by
  cases r with
  | project | limit | sort | setOperation => simp [operator] at h
  | _ => rfl

end Engine.Relation

/-! ### The lowering with names -/

/-- A projection that a read puts on its scan constructs nothing. -/
lemma ne_row_of_mapM_keptColumn {fields : List Int32} {columns : List Expr}
    (h : fields.mapM keptColumn = .ok columns) :
    ∀ e ∈ columns, ∀ es, e ≠ .row es := by
  intro e he es
  obtain ⟨field, -, hfield⟩ := exists_of_mem_mapM h e he
  rintro rfl
  unfold keptColumn at hfield
  split_ifs at hfield
  cases hfield

namespace LoweringContext

variable (c : LoweringContext) (names : List String)

/-- A read gives no constructed structs, so there are no fields to name. -/
lemma nameFields_lowerRead (read : Read) :
    Relation.nameFields names <$> c.lowerRead read = c.lowerRead read := by
  apply Lowering.map_eq_self
  intro n r k h
  obtain ⟨scan, source, hscan, hf, hk⟩ := lowerRead_eq_ok.mp h
  have hsource : source.nameFields names = source := by
    rcases filtered_eq_ok.mp hf with ⟨-, rfl⟩ | ⟨condition, e, -, -, rfl⟩
    · have hs := isScan_of_scan hscan
      cases source with
      | table | view | inline | aliased => rfl
      | _ => cases hs
    · rfl
  rcases keepColumns_eq_ok.mp hk with ⟨-, rfl⟩ | ⟨-, columns, hc, rfl⟩
  · exact hsource
  · rw [Relation.nameFields, NameStream.nameColumns_of_ne_row _ (ne_row_of_mapM_keptColumn hc)]

lemma lowerInput_some (field : String) (input : Option Rel)
    (h : ∀ rel, input = some rel →
      c.lowerRel rel (some names) = Relation.nameFields names <$> c.lowerRel rel none) :
    c.lowerInput field input (some names) =
      Relation.nameFields names <$> c.lowerInput field input none := by
  cases input with
  | none => rfl
  | some rel =>
    simp only [lowerInput]
    exact h rel rfl

/-- What the names are not handed to is lowered to something without a path. -/
lemma lowerRel_some_of_ignored {rel : Rel}
    (hnames : c.lowerRel rel (some names) = c.lowerRel rel none)
    (h : ∀ op ∈ rel.operators, op ∉ ["Project", "Limit", "Order", "SetOp"]) :
    c.lowerRel rel (some names) = Relation.nameFields names <$> c.lowerRel rel none := by
  rw [hnames, Lowering.map_eq_self]
  intro n r k hr
  exact Relation.nameFields_of_operator names (h _ (operator_of_lowerRel hr))

/-- Names only name fields: they are given to the relation that is lowered without them. -/
lemma lowerRel_some (rel : Rel) :
    c.lowerRel rel (some names) = Relation.nameFields names <$> c.lowerRel rel none := by
  match rel with
  | .unset => rfl
  | .other kind => rfl
  | .read read =>
    rw [lowerRel, lowerRel, nameFields_lowerRead]
  -- These do not look at the names, and what they are lowered to has no columns to name.
  | .filter .. | .aggregate .. | .join .. | .cross .. | .write .. =>
    exact c.lowerRel_some_of_ignored names (by rw [lowerRel, lowerRel]) (by simp [Rel.operators])
  | .fetch input offset count =>
    have ih := c.lowerInput_some names "fetch.input" input fun rel _ => lowerRel_some rel
    rw [lowerRel, lowerRel, ih]
    simp only [map_bind, bind_map_left, map_pure, Relation.nameFields]
  | .sort input sorts =>
    have ih := c.lowerInput_some names "sort.input" input fun rel _ => lowerRel_some rel
    rw [lowerRel, lowerRel, ih]
    simp only [map_bind, bind_map_left, map_pure, Relation.nameFields]
  | .set [left, right] op =>
    have ih := lowerRel_some right
    rw [lowerRel, lowerRel]
    simp only [ih, map_bind, bind_map_left, map_pure, Relation.nameFields]
  | .set [] op =>
    rw [lowerRel, lowerRel, map_bind]
    rfl
  | .set [input] op =>
    rw [lowerRel, lowerRel, map_bind]
    rfl
  | .set (first :: second :: third :: rest) op =>
    rw [lowerRel, lowerRel, map_bind]
    rfl
  | .project input expressions =>
    rw [lowerRel, lowerRel]
    simp only [lowerProjected, lowerColumns_eq]
    cases lowerAll c.functions expressions with
    | error refusal => rfl
    | ok columns =>
      simp only [Except.map, Lowering.lift_ok_bind, map_bind, map_pure, Relation.nameFields,
        NameStream.length_nameColumns]
termination_by rel

variable {c}

lemma runFrom_lowerRel_some {rel : Rel} {n k : Nat} {r : Relation}
    (h : (c.lowerRel rel none).runFrom n = (.ok r, k)) :
    (c.lowerRel rel (some names)).runFrom n = (.ok (r.nameFields names), k) := by
  rw [lowerRel_some, Lowering.runFrom_map, h]
  rfl

end LoweringContext

end PlanImport
