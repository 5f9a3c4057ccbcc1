import PlanImport.Proofs.Naming.Relation
import PlanImport.Proofs.Naming.Root
import PlanImport.Proofs.WellFormed.Read

/-!
# Plans are lowered to well-formed relations

Each kind of relation is lowered to a node that is well formed if its inputs are, and the names that
fields take afterwards differ. On top of a root stands one projection whose names are those of the
root.
-/

namespace PlanImport

open Engine Plan

/-! ### Output columns -/

namespace NameStream

end NameStream

/-! ### Relations -/

namespace LoweringContext

variable {c : LoweringContext} {n k : Nat} {r : Relation}

end LoweringContext

/-! ### Roots and plans -/

/-- A renaming refers to the columns by their positions from one. -/
lemma Engine.Relation.WellFormed.renamed {r : Relation} (h : r.WellFormed)
    (names : List String) : (r.renamed names).WellFormedRenaming := by
  refine ⟨h, fun e he => ?_, by rw [List.length_map, List.length_range]⟩
  obtain ⟨i, -, rfl⟩ := List.mem_map.mp he
  exact Nat.le_add_left 1 i

/-- The names go on top of a relation, or on top of what a write creates a table from. -/
lemma Engine.Relation.WellFormed.withNames {r : Relation} (h : r.WellFormed)
    (names : List String) : (r.withNames names).WellFormedRoot := by
  cases r with
  | write target effect =>
    cases effect with
    | createTableAs input => exact WellFormed.renamed (r := input) h names
    | insert input => exact h
    | delete condition => exact h
  | _ => exact h.renamed names

namespace LoweringContext

variable {c : LoweringContext} {n k : Nat} {r : Relation}

end LoweringContext

end PlanImport
