import PlanImport.Proofs.Naming.FlatList
import PlanImport.Proofs.Naming.Relation

/-!
# The path of the names of output columns

The names of the output columns are handed down through limits and sorts to their inputs and from a
set operation to its right input. The search for a projection goes the same way in the lowered
relation, so what it finds is what the end of the path has been lowered to with these names.
-/

namespace PlanImport

open Engine Plan
open Lowering

/-! ### The path -/

namespace Plan.Rel

/-- The relation that the names of the output columns are handed down to. -/
def namesEnd : Rel → Rel
  | .fetch (some input) _ _ => input.namesEnd
  | .sort (some input) _ => input.namesEnd
  | .set [_, right] _ => right.namesEnd
  | rel => rel

/-- The relations that are lowered on the way to the end of the path: the left inputs of the set
operations, from the outermost one on. -/
def namesPassed : Rel → List Rel
  | .fetch (some input) _ _ => input.namesPassed
  | .sort (some input) _ => input.namesPassed
  | .set [left, right] _ => left :: right.namesPassed
  | _ => []

/-- Whether a relation is lowered to a projection: it is one, or a read of chosen columns. -/
def givesProjection : Rel → Bool
  | .project .. => true
  | .read r => !r.projection.isEmpty
  | _ => false

end Plan.Rel

namespace LoweringContext

variable {c : LoweringContext} {names : Option (List String)} {n k : Nat} {rel : Rel}
  {r : Relation}

/-! ### The end of the path -/

/-- A read is lowered to a projection if it chooses columns, and has none beneath otherwise. -/
lemma projection?_of_lowerRead {read : Read} (h : (c.lowerRead read).runFrom n = (.ok r, k)) :
    r.projection? = if (Rel.read read).givesProjection then some r else none := by
  obtain ⟨scan, source, hscan, hf, hk⟩ := lowerRead_eq_ok.mp h
  rcases keepColumns_eq_ok.mp hk with ⟨hfields, rfl⟩ | ⟨hfields, columns, -, rfl⟩
  · have hgives : (Rel.read read).givesProjection = false := by simp [Rel.givesProjection, hfields]
    rw [hgives, if_neg Bool.false_ne_true]
    rcases filtered_eq_ok.mp hf with ⟨-, rfl⟩ | ⟨condition, e, -, -, rfl⟩
    · have hs := isScan_of_scan hscan
      cases r with
      | table | view | inline | aliased => rfl
      | _ => cases hs
    · rfl
  · have hgives : (Rel.read read).givesProjection = true := by simp [Rel.givesProjection, hfields]
    rw [hgives, if_pos rfl]
    rfl

/-- The end of the path is lowered with the names that are handed down, after what is passed on the
way, and it is what the search for a projection looks at. -/
lemma Lowers.projection?_eq (h : Lowers c rel names n r k) :
    ∃ passed j last,
      (rel.namesPassed.mapM fun rel => c.lowerRel rel none).runFrom n = (.ok passed, j) ∧
      Lowers c rel.namesEnd names j last k ∧
      r.projection? = if rel.namesEnd.givesProjection then some last else none := by
  induction h with
  | read h => exact ⟨[], _, _, rfl, .read h, projection?_of_lowerRead h⟩
  | project hcolumns hinput => exact ⟨[], _, _, rfl, .project hcolumns hinput, rfl⟩
  | filter hinput he => exact ⟨[], _, _, rfl, .filter hinput he, rfl⟩
  | aggregate hgroups hcalls hinput => exact ⟨[], _, _, rfl, .aggregate hgroups hcalls hinput, rfl⟩
  | join hkind he hleft hright => exact ⟨[], _, _, rfl, .join hkind he hleft hright, rfl⟩
  | cross hleft hright => exact ⟨[], _, _, rfl, .cross hleft hright, rfl⟩
  | write hname hinput heffect => exact ⟨[], _, _, rfl, .write hname hinput heffect, rfl⟩
  | fetch _ _ ih => exact ih
  | sort _ _ ih => exact ih
  | @set left right _ _ _ _ _ source _ _ _ hleft _ _ ih =>
    obtain ⟨passed, j, last, hpassed, hlast, hp⟩ := ih
    refine ⟨source :: passed, j, last, ?_, hlast, hp⟩
    rw [Rel.namesPassed, List.mapM_cons, runFrom_bind_bind_pure_eq_ok]
    exact ⟨_, _, _, hleft.lowerRel_eq_ok, hpassed, rfl⟩

/-- If a projection is handed the names, its columns are those of the projection that is found on
the lowered path. -/
lemma projection?_of_lowerRel {input : Option Rel} {expressions : List Expression}
    (hend : rel.namesEnd = .project input expressions)
    (h : (c.lowerRel rel none).runFrom n = (.ok r, k)) :
    ∃ source rows, lowerAll c.functions expressions = .ok rows ∧
      r.projection? = some (.project source rows (placeholderNames rows.length)) := by
  obtain ⟨passed, j, last, -, hlast, hp⟩ := (lowers_of_lowerRel rel none h).projection?_eq
  rw [hend] at hlast hp
  obtain ⟨rows, source, hrows, -, rfl⟩ := lowerRel_project_eq_ok.mp hlast.lowerRel_eq_ok
  exact ⟨source, rows, hrows, hp⟩

/-- The search for a projection in a lowered relation follows the path on which the names of the
output columns are handed down: it finds what the end of the path is lowered to with these names,
the scans numbered on from those that are passed on the way, if that is a projection or a read of
chosen columns, and nothing otherwise. -/
theorem projection?_lowerRel (h : (c.lowerRel rel names).runFrom n = (.ok r, k)) :
    ∃ passed j last,
      (rel.namesPassed.mapM fun rel => c.lowerRel rel none).runFrom n = (.ok passed, j) ∧
      (c.lowerRel rel.namesEnd names).runFrom j = (.ok last, k) ∧
      r.projection? = if rel.namesEnd.givesProjection then some last else none := by
  obtain ⟨passed, j, last, hpassed, hlast, hp⟩ := (lowers_of_lowerRel rel names h).projection?_eq
  exact ⟨passed, j, last, hpassed, hlast.lowerRel_eq_ok, hp⟩

/-- The places of a file and then, in the order of their numbers, those of a table, with the first
column as the only field of a constructed struct. -/
def placesUnion : Rel :=
  .fetch (some (.set [.read ⟨.localFiles [⟨.uriFile "places.parquet", true⟩], none, []⟩,
    .sort (some (placesProject [inputField 1, .nestedStruct [inputField 0]]))
      [⟨some (inputField 0), .direction 1⟩]] 6)) 0 10

/-- Beneath a limit, to the right of a scan of a file and beneath a sort, the projection is found
with its fields named. -/
theorem projection?_lowerRel_union :
    ∃ r, (placesContext.lowerRel placesUnion (some ["n", "s", "p"])).runFrom 3 = (.ok r, 4) ∧
      r.projection? = some (.project (.table places .acquire)
        [.column 2, .struct [("p", .column 1)]] ["col_0", "col_1"]) := by
  have h : (placesContext.lowerRel placesUnion (some ["n", "s", "p"])).runFrom 3 = (.ok _, 4) := rfl
  refine ⟨_, h, ?_⟩
  obtain ⟨passed, j, last, -, hlast, hp⟩ := projection?_lowerRel h
  rw [hp]
  cases hlast
  rfl

end LoweringContext

end PlanImport
