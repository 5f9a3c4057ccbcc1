import PlanImport.Proofs.Lowering.Corresponding

/-!
# How scans take the lock

Whether the execution takes the lock of the client context is written on each leaf of the lowered
relation. Nothing else in it, no refusal and no number of a scan depends on it.
-/

namespace PlanImport

open Engine Plan
open Lowering

/-! ### Leaves -/

namespace Engine

mutual

/-- How the leaves of a relation take the lock, from left to right. -/
def Relation.locks : Relation → List LockMode
  | .table _ lock | .view _ lock | .tableFunction _ _ _ lock | .inline _ lock => [lock]
  | .aliased _ input => input.locks
  | .filter input _ => input.locks
  | .project input _ _ => input.locks
  | .aggregate input _ _ => input.locks
  | .limit input _ _ => input.locks
  | .sort input _ => input.locks
  | .join left right _ _ => left.locks ++ right.locks
  | .product left right => left.locks ++ right.locks
  | .setOperation left right _ => left.locks ++ right.locks
  | .write _ effect => effect.locks

def WriteEffect.locks : WriteEffect → List LockMode
  | .createTableAs input => input.locks
  | .insert input => input.locks
  | .delete _ => []

end

namespace Relation

/-- A scan that takes the lock in the given way. -/
def lockScan (lock : LockMode) : Relation → Relation
  | .table info _ => .table info lock
  | .view info _ => .view info lock
  | .tableFunction function parameters namedParameters _ =>
    .tableFunction function parameters namedParameters lock
  | .inline rows _ => .inline rows lock
  | .aliased name (.tableFunction function parameters namedParameters _) =>
    .aliased name (.tableFunction function parameters namedParameters lock)
  | r => r

/-- A relation whose leaves all take the lock in the given way. -/
def withLock (lock : LockMode) (r : Relation) : Relation := r.mapScans (lockScan lock)

lemma keepsShape_lockScan (lock : LockMode) : KeepsShape (lockScan lock) where
  operator r := by
    unfold lockScan
    split <;> rfl
  columnTypes r := by
    cases r with
    | inline rows => cases rows <;> rfl
    | aliased name input => cases input <;> rfl
    | _ => rfl

mutual

/-- Each leaf takes the lock in the given way, and there are as many of them as before. -/
lemma locks_withLock (lock : LockMode) (r : Relation) :
    (r.withLock lock).locks = r.locks.map fun _ => lock := by
  match r with
  | .table .. | .view .. | .tableFunction .. | .inline .. => rfl
  | .aliased name input =>
    rw [withLock, mapScans_aliased]
    split_ifs with hinput
    · cases input with
      | tableFunction => rfl
      | _ => simp [operator] at hinput
    · rw [locks, ← withLock, locks_withLock lock input, locks]
  | .filter input _ | .project input _ _ | .aggregate input _ _ | .limit input _ _
  | .sort input _ =>
    rw [withLock, mapScans, locks, ← withLock, locks_withLock lock input, locks]
  | .join left right _ _ | .product left right | .setOperation left right _ =>
    rw [withLock, mapScans, locks, ← withLock, ← withLock, locks_withLock lock left,
      locks_withLock lock right, locks, List.map_append]
  | .write target effect =>
    rw [withLock, mapScans, locks, WriteEffect.locks_mapScans_lockScan lock effect, locks]

lemma WriteEffect.locks_mapScans_lockScan (lock : LockMode) (effect : WriteEffect) :
    (effect.mapScans (lockScan lock)).locks = effect.locks.map fun _ => lock := by
  match effect with
  | .createTableAs input | .insert input =>
    rw [WriteEffect.mapScans, WriteEffect.locks, ← withLock, locks_withLock lock input,
      WriteEffect.locks]
  | .delete condition => rfl

end

end Relation

end Engine

/-! ### Lowerings with another lock -/

/-- The outcomes of two lowerings, of which the first one takes the lock and the second one leaves
it to the caller: both are refused for the same cause, or the second relation is the first one but
for the lock of each leaf. As many scans are counted. -/
inductive DifferInLock :
    Except Refusal Relation × Nat → Except Refusal Relation × Nat → Prop
  | refused (e : Refusal) (next : Nat) : DifferInLock (.error e, next) (.error e, next)
  | lowered (r : Relation) (next : Nat) (hacquire : ∀ lock ∈ r.locks, lock = .acquire)
    (hexternal : ∀ lock ∈ (r.withLock .external).locks, lock = .external) :
    DifferInLock (.ok r, next) (.ok (r.withLock .external), next)

namespace LoweringContext

variable (c : LoweringContext)

/-- The flag is looked at nowhere but in the scans. -/
lemma scansCorrespond_acquireLock (acquireLock : Bool) :
    ScansCorrespond id (fun _ name => name) (Relation.lockScan (.ofFlag acquireLock)) c
      { c with acquireLock } where
  functions := .refl c.functions
  catalog := rfl
  defaultSchema := rfl
  shape := Relation.keepsShape_lockScan _
  name _ _ _ _ := rfl
  table _ := rfl
  view _ := rfl
  inline _ := rfl
  tableFunction _ _ _ _ := rfl

lemma runFrom_lowerPlan_acquireLock (acquireLock : Bool) (p : Plan) (n : Nat) :
    (LoweringContext.lowerPlan { c with acquireLock } p).runFrom n =
      (((c.lowerPlan p).runFrom n).1.map (Relation.withLock (.ofFlag acquireLock)),
        ((c.lowerPlan p).runFrom n).2) :=
  (c.scansCorrespond_acquireLock acquireLock).lowerPlan rfl n

/-- Every leaf of a lowered relation takes the lock in the way of the context. -/
lemma eq_lockMode_of_mem_locks {p : Plan} {n k : Nat} {r : Relation}
    (h : (c.lowerPlan p).runFrom n = (.ok r, k)) : ∀ lock ∈ r.locks, lock = c.lockMode := by
  -- Putting the lock of the context on the leaves changes nothing.
  have hsame := c.runFrom_lowerPlan_acquireLock c.acquireLock p n
  have hr : r = r.withLock c.lockMode := by
    rw [h] at hsame
    exact Except.ok.inj (Prod.mk.inj hsame).1
  rw [hr, Relation.locks_withLock]
  intro lock hlock
  obtain ⟨_, -, rfl⟩ := List.mem_map.mp hlock
  rfl

/-- Whether the execution takes the lock is written on the leaves and changes nothing else. -/
theorem lowerPlan_differInLock (p : Plan) (catalog : Lookups) (schema : String) (n : Nat) :
    DifferInLock (((ofPlan p catalog true schema).lowerPlan p).runFrom n)
      (((ofPlan p catalog false schema).lowerPlan p).runFrom n) := by
  have hother := (ofPlan p catalog true schema).runFrom_lowerPlan_acquireLock false p n
  rw [show ofPlan p catalog false schema =
    { ofPlan p catalog true schema with acquireLock := false } from rfl]
  rcases hrun : ((ofPlan p catalog true schema).lowerPlan p).runFrom n with ⟨result, next⟩
  rw [hrun] at hother
  rw [hother]
  cases result with
  | error e => exact .refused e next
  | ok r =>
    exact .lowered r next (eq_lockMode_of_mem_locks _ hrun) (eq_lockMode_of_mem_locks _ hother)

def readings : TableInfo := ⟨"main", "readings", [⟨"value", .integer⟩]⟩

/-- The product of this table and a file. -/
def readingsPlan : Plan :=
  ⟨[], [], [.rel (.cross (some (.read ⟨.namedTable ["readings"], none, []⟩))
    (some (.read ⟨.localFiles [⟨.uriFile "f", true⟩], none, []⟩)))], none⟩

/-- What it is lowered to. -/
def readingsProduct (lock : LockMode) : Relation :=
  .product (.aliased "left" (.table readings lock)) (.aliased "right" (.aliased "parquet_0"
    (.tableFunction "parquet_scan" [.list [.varchar "f"]] [("binary_as_string", .boolean false)]
      lock)))

lemma runFrom_lowerPlan_readingsPlan (acquireLock : Bool) :
    ((ofPlan readingsPlan (Catalog.empty.insertTable readings) acquireLock "main").lowerPlan
      readingsPlan).runFrom 0 = (.ok (readingsProduct (.ofFlag acquireLock)), 1) := by
  cases acquireLock <;> rfl

/-- The lock is written on both scans of the product and nowhere else. -/
theorem lowerPlan_differInLock_readings :
    DifferInLock
      (((ofPlan readingsPlan (Catalog.empty.insertTable readings) true "main").lowerPlan
        readingsPlan).runFrom 0)
      (((ofPlan readingsPlan (Catalog.empty.insertTable readings) false "main").lowerPlan
        readingsPlan).runFrom 0) ∧
    ((ofPlan readingsPlan (Catalog.empty.insertTable readings) true "main").lowerPlan
      readingsPlan).runFrom 0 = (.ok (readingsProduct .acquire), 1) ∧
    ((ofPlan readingsPlan (Catalog.empty.insertTable readings) false "main").lowerPlan
      readingsPlan).runFrom 0 = (.ok (readingsProduct .external), 1) :=
  ⟨lowerPlan_differInLock _ _ _ _, runFrom_lowerPlan_readingsPlan true,
    runFrom_lowerPlan_readingsPlan false⟩

end LoweringContext

end PlanImport
