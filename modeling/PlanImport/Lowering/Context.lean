import PlanImport.Engine.Relation
import PlanImport.Lowering.Functions

/-!
# What a plan is lowered against

Names of tables are resolved in a catalog at once. Scans of files are given names by numbering
them, so a lowering has the next number as its state; it goes on counting from where an earlier
one stopped, also from one that was given up.
-/

namespace PlanImport

open Engine Plan

/-- What a lowering refers to. -/
structure LoweringContext where
  functions : FunctionTable
  catalog : Lookups
  /-- Whether the execution of the engine's relation takes the lock of the client context. -/
  acquireLock : Bool
  /-- The schema of tables that are named without one. -/
  defaultSchema : String
  deriving Inhabited

namespace LoweringContext

def ofPlan (p : Plan) (catalog : Lookups) (acquireLock : Bool) (defaultSchema : String) :
    LoweringContext :=
  { functions := .ofPlan p, catalog, acquireLock, defaultSchema }

/-- How the scans take the lock. -/
def lockMode (c : LoweringContext) : LockMode := .ofFlag c.acquireLock

end LoweringContext

/-- A computation that numbers scans. -/
abbrev Lowering := ExceptT Refusal (StateM Nat)

namespace Lowering

/-- A computation that numbers nothing. -/
def lift (r : Except Refusal α) : Lowering α := ExceptT.mk (pure r)

/-- A name for a scan that no other scan has. -/
def scanName (stem : String) : Lowering String := do
  let n ← getModify (· + 1)
  return stem ++ "_" ++ .ofList (Text.digits n)

end Lowering

/-- The names of columns that are computed. -/
def placeholderNames (count : Nat) : List String :=
  (List.range count).map fun i => "col_" ++ .ofList (Text.digits i)

end PlanImport
