import PlanImport.Proofs.Scans.Numbers

/-!
# Calls that share the numbers of scans

A plan may be lowered more than once, and so may other relations with its functions, one after the
other: each call goes on counting from where the one before it has stopped, whether that one ended
with a relation or with a refusal. So no two scans in all that is ever returned share a number.
-/

namespace PlanImport

open Engine Plan
open Lowering

/-- What may be lowered for a plan: its own first relation, or any relation with the names of its
output columns if they are known. -/
inductive PlanCall
  | plan
  | rel (r : Rel) (names : Option (List String))

/-- The outcome of a call, between the numbers of the next scan before and after it. -/
structure CallOutcome where
  before : Nat
  result : Except Refusal Relation
  after : Nat

namespace PlanCall

/-- The lowering that a call runs. -/
def lower (c : LoweringContext) (p : Plan) : PlanCall → Lowering Relation
  | .plan => c.lowerPlan p
  | .rel r names => c.lowerRel r names

/-- The outcomes of calls one after the other. Tables may come and go between them, so each call
comes with the catalog as it is then. -/
def outcomes (p : Plan) (acquireLock : Bool) (schema : String) :
    List (Lookups × PlanCall) → Nat → List CallOutcome
  | [], _ => []
  | (catalog, call) :: calls, n =>
    let (result, k) := (call.lower (.ofPlan p catalog acquireLock schema) p).runFrom n
    ⟨n, result, k⟩ :: outcomes p acquireLock schema calls k

end PlanCall

def CallOutcome.scanNumbers (o : CallOutcome) : List Nat :=
  match o.result with
  | .ok r => r.scanNumbers?.getD []
  | .error _ => []

/-- No scan gets a number twice. -/
structure NeverReused (outcomes : List CallOutcome) : Prop where
  /-- In every relation that is returned each scan has a number in its name, and from left to right
  these are all numbers from the next one before the call up to the next one after it. -/
  consecutive : ∀ o ∈ outcomes, ∀ r, o.result = .ok r →
    o.before ≤ o.after ∧ r.scanNumbers? = some (List.range' o.before (o.after - o.before))
  /-- From left to right in each relation, and from call to call, the numbers increase. -/
  increasing : (outcomes.flatMap CallOutcome.scanNumbers).Pairwise (· < ·)

namespace PlanCall

variable {c : LoweringContext} {p : Plan} {n k : Nat} {r : Relation}

/-! ### One call -/

lemma numbered_lower {call : PlanCall} (h : (call.lower c p).runFrom n = (.ok r, k)) :
    Numbered r.scans n k := by
  cases call with
  | plan => exact LoweringContext.numbered_lowerPlan h
  | rel rel' names => exact (LoweringContext.lowers_of_lowerRel rel' names h).numbered

lemma counts_lower (c : LoweringContext) (p : Plan) (call : PlanCall) :
    Counts (call.lower c p) := by
  cases call with
  | plan => exact c.counts_lowerPlan p
  | rel rel' names => exact c.counts_lowerRel rel' names

/-- A call returns only numbers from the next one before it, and none that is left after it. -/
lemma mem_scanNumbers {call : PlanCall} {result : Except Refusal Relation}
    (h : (call.lower c p).runFrom n = (result, k)) {number : Nat}
    (hmem : number ∈ (CallOutcome.mk n result k).scanNumbers) : n ≤ number ∧ number < k := by
  cases result with
  | error e => cases hmem
  | ok r =>
    obtain ⟨hle, hnumbers⟩ := numbered_lower h
    simp only [CallOutcome.scanNumbers, Relation.scanNumbers?, hnumbers, Option.getD_some,
      List.mem_range'_1] at hmem
    omega

/-- Within a call the numbers of the scans increase from left to right. -/
lemma pairwise_scanNumbers {call : PlanCall} {result : Except Refusal Relation}
    (h : (call.lower c p).runFrom n = (result, k)) :
    (CallOutcome.mk n result k).scanNumbers.Pairwise (· < ·) := by
  cases result with
  | error e => exact .nil
  | ok r =>
    simp only [CallOutcome.scanNumbers, Relation.scanNumbers?, (numbered_lower h).2,
      Option.getD_some]
    exact List.pairwise_lt_range' 1

/-! ### Calls one after the other -/

variable {acquireLock : Bool} {schema : String}

/-- Later calls return no number that was taken before them. -/
lemma le_of_mem_outcomes (calls : List (Lookups × PlanCall)) {start number : Nat}
    (h : number ∈ (outcomes p acquireLock schema calls start).flatMap CallOutcome.scanNumbers) :
    start ≤ number := by
  induction calls generalizing start with
  | nil => cases h
  | cons entry calls ih =>
    obtain ⟨catalog, call⟩ := entry
    have hcounts := counts_lower (.ofPlan p catalog acquireLock schema) p call start
    rw [outcomes] at h
    rcases hrun : (call.lower (.ofPlan p catalog acquireLock schema) p).runFrom start
      with ⟨result, k⟩
    rw [hrun] at h hcounts
    rw [List.flatMap_cons, List.mem_append] at h
    rcases h with h | h
    · exact (mem_scanNumbers hrun h).1
    · exact Nat.le_trans hcounts (ih h)

/-- However many calls there are and however they end, no number is that of two scans in what they
return. -/
theorem neverReused_outcomes (p : Plan) (acquireLock : Bool) (schema : String)
    (calls : List (Lookups × PlanCall)) (start : Nat) :
    NeverReused (outcomes p acquireLock schema calls start) := by
  induction calls generalizing start with
  | nil => exact ⟨by simp [outcomes], .nil⟩
  | cons entry calls ih =>
    obtain ⟨catalog, call⟩ := entry
    rw [outcomes]
    rcases hrun : (call.lower (.ofPlan p catalog acquireLock schema) p).runFrom start
      with ⟨result, k⟩
    constructor
    · intro o ho r hr
      rcases List.mem_cons.mp ho with rfl | ho
      · cases hr
        exact numbered_lower hrun
      · exact (ih k).consecutive o ho r hr
    · rw [List.flatMap_cons, List.pairwise_append]
      refine ⟨pairwise_scanNumbers hrun, (ih k).increasing, fun number hnumber later hlater => ?_⟩
      exact Nat.lt_of_lt_of_le (mem_scanNumbers hrun hnumber).2 (le_of_mem_outcomes calls hlater)

end PlanCall

end PlanImport
