import PlanImport.Proofs.Lowering.Corresponding
import PlanImport.Proofs.Scans.Calls

/-!
# Repeated lowerings

Where the count of scans starts is seen in the numbers of the scans and nowhere else. So lowering a
plan again gives the first relation with each number moved by as much as has been counted since, or
the same refusal, and counts as many scans as the first time.
-/

namespace PlanImport

open Engine Plan
open Lowering

/-! ### Scans with other numbers -/

/-- The name of a call of a table function with another number in it. A name without a number stays
as it is. -/
def renumberedName (g : Nat → Nat) (name function : String) : String :=
  match scanStem? function, scanNumber? (name, function) with
  | some stem, some number => stem ++ "_" ++ .ofList (Text.digits (g number))
  | _, _ => name

section

variable {name function stem : String} {number : Nat} {g g' : Nat → Nat}

lemma renumberedName_eq (hstem : scanStem? function = some stem)
    (h : scanNumber? (name, function) = some number) :
    renumberedName g name function = stem ++ "_" ++ .ofList (Text.digits (g number)) := by
  rw [renumberedName, hstem, h]

lemma renumberedName_of_none (h : scanNumber? (name, function) = none) :
    renumberedName g name function = name := by
  rw [renumberedName, h]
  split
  · rename_i hnumber
    cases hnumber
  · rfl

/-- What is read from a name is the number that was put into it. -/
lemma renumberedName_renumberedName (g g' : Nat → Nat) (name function : String) :
    renumberedName g' (renumberedName g name function) function =
      renumberedName (g' ∘ g) name function := by
  cases h : scanNumber? (name, function) with
  | none => rw [renumberedName_of_none h, renumberedName_of_none h, renumberedName_of_none h]
  | some number =>
    obtain ⟨stem, hstem, -⟩ := scanNumber?_eq_some_iff.mp h
    have h' : scanNumber? (renumberedName g name function, function) = some (g number) :=
      scanNumber?_eq_some_iff.mpr ⟨stem, hstem, renumberedName_eq hstem h⟩
    rw [renumberedName_eq hstem h', renumberedName_eq hstem h]
    rfl

end

namespace Engine.Relation

/-- A scan with another number in its name, if there is one in it. -/
def renumberScan (g : Nat → Nat) : Relation → Relation
  | .aliased name (.tableFunction function parameters namedParameters lock) =>
    .aliased (renumberedName g name function)
      (.tableFunction function parameters namedParameters lock)
  | r => r

/-- A relation with other numbers in the names of its scans. -/
def renumbered (g : Nat → Nat) (r : Relation) : Relation := r.mapScans (renumberScan g)

lemma keepsShape_renumberScan (g : Nat → Nat) : KeepsShape (renumberScan g) where
  operator r := by
    unfold renumberScan
    split <;> rfl
  columnTypes r := by
    unfold renumberScan
    split <;> rfl

lemma renumbered_renumbered (g g' : Nat → Nat) (r : Relation) :
    (r.renumbered g).renumbered g' = r.renumbered (g' ∘ g) := by
  refine mapScans_mapScans (keepsShape_renumberScan g) (fun r hr => ?_) r
  cases r with
  | table | view | inline | tableFunction => rfl
  | aliased name input =>
    cases input with
    | tableFunction function parameters namedParameters lock =>
      show aliased (renumberedName g' (renumberedName g name function) function) _ =
        aliased (renumberedName (g' ∘ g) name function) _
      rw [renumberedName_renumberedName]
    | _ => simp [isScan, operator] at hr
  | _ => simp [isScan, operator] at hr

end Engine.Relation

/-! ### Lowerings that start later -/

namespace LoweringContext

variable (c : LoweringContext) (d : Nat)

/-- A name that is given later has a later number. -/
lemma corresponds_scanName {stem function : String} (h : scanStem? function = some stem) :
    Corresponds (· + d) (renumberedName (· + d) · function) (scanName stem) (scanName stem) := by
  intro n
  have hnumber : scanNumber? (stem ++ "_" ++ .ofList (Text.digits n), function) = some n :=
    scanNumber?_eq_some_iff.mpr ⟨stem, h, rfl⟩
  rw [runFrom_scanName, runFrom_scanName, Except.map, renumberedName_eq h hnumber,
    Nat.add_right_comm]

/-- A lowering that starts later scans the same with later numbers. -/
lemma scansCorrespond_add :
    ScansCorrespond (· + d) (fun function name => renumberedName (· + d) name function)
      (Relation.renumberScan (· + d)) c c where
  functions := .refl c.functions
  catalog := rfl
  defaultSchema := rfl
  shape := Relation.keepsShape_renumberScan _
  name _ _ h := corresponds_scanName d h
  table _ := rfl
  view _ := rfl
  inline _ := rfl
  tableFunction _ _ _ _ := rfl

/-- From a later number a plan is lowered to the same relation with later numbers, or refused for
the same cause. -/
lemma runFrom_lowerPlan_add (p : Plan) (n : Nat) :
    (c.lowerPlan p).runFrom (n + d) =
      (((c.lowerPlan p).runFrom n).1.map (Relation.renumbered (· + d)),
        ((c.lowerPlan p).runFrom n).2 + d) :=
  (c.scansCorrespond_add d).lowerPlan rfl n

end LoweringContext

/-! ### The same plan again -/

/-- The outcomes of a lowering from `a` and of one from `b`, each with the number of the next scan:
both are refused for the same cause, or the numbers in the first relation are those from `a` on and
the second relation is the first one with each number `n` moved to `n - a + b`. Both times as many
scans are counted. -/
inductive SameButNumbers (a b : Nat) :
    Except Refusal Relation × Nat → Except Refusal Relation × Nat → Prop
  | refused (e : Refusal) (count : Nat) :
    SameButNumbers a b (.error e, a + count) (.error e, b + count)
  | lowered (r : Relation) (count : Nat) (h : r.scanNumbers? = some (List.range' a count)) :
    SameButNumbers a b (.ok r, a + count) (.ok (r.renumbered fun n => n - a + b), b + count)

/-- Lowering a plan more than once only renumbers scans. -/
structure OnlyRenumbers (p : Plan) (catalog : Lookups) (acquireLock : Bool) (schema : String) :
    Prop where
  /-- Two lowerings end alike but for the numbers of scans. -/
  sameButNumbers : ∀ a b, SameButNumbers a b
    (((LoweringContext.ofPlan p catalog acquireLock schema).lowerPlan p).runFrom a)
    (((LoweringContext.ofPlan p catalog acquireLock schema).lowerPlan p).runFrom b)
  /-- Of calls one after the other each moves the numbers of the first one by a multiple of how many
  scans that one has counted. -/
  calls : ∀ start, ∃ (result : Except Refusal Relation) (count : Nat), ∀ times,
    PlanCall.outcomes p acquireLock schema (List.replicate times (catalog, .plan)) start =
      (List.range times).map fun i =>
        ⟨start + i * count, result.map (Relation.renumbered (· + i * count)),
          start + (i + 1) * count⟩

namespace LoweringContext

variable (c : LoweringContext) (p : Plan)

/-- Both lowerings are compared with the one from zero, of which each is a renumbering. -/
lemma sameButNumbers_lowerPlan (a b : Nat) :
    SameButNumbers a b ((c.lowerPlan p).runFrom a) ((c.lowerPlan p).runFrom b) := by
  -- Both are the lowering from zero with each number moved up.
  have ha := c.runFrom_lowerPlan_add a p 0
  have hb := c.runFrom_lowerPlan_add b p 0
  rw [Nat.zero_add] at ha hb
  rcases hzero : (c.lowerPlan p).runFrom 0 with ⟨result, count⟩
  rw [hzero] at ha hb
  rw [ha, hb, Nat.add_comm count a, Nat.add_comm count b]
  cases result with
  | error e => exact .refused e count
  | ok r =>
    have hmove : (fun n => n - a + b) ∘ (fun n => n + a) = fun n => n + b := by
      funext n
      rw [Function.comp_apply, Nat.add_sub_cancel]
    have hnumbers : (r.renumbered (· + a)).scanNumbers? = some (List.range' a count) := by
      obtain ⟨-, h⟩ := numbered_lowerPlan ha
      rwa [Nat.add_sub_cancel] at h
    have h := SameButNumbers.lowered (b := b) (r.renumbered (· + a)) count hnumbers
    rwa [Relation.renumbered_renumbered, hmove] at h

end LoweringContext

namespace PlanCall

/-- Calls for a plan count on, each in the same way. -/
lemma outcomes_replicate {p : Plan} {catalog : Lookups} {acquireLock : Bool} {schema : String}
    {start count : Nat} {result : Except Refusal Relation}
    (h : ((LoweringContext.ofPlan p catalog acquireLock schema).lowerPlan p).runFrom start =
      (result, start + count)) (times before : Nat) :
    outcomes p acquireLock schema (List.replicate times (catalog, .plan))
        (start + before * count) =
      (List.range' before times).map fun i =>
        ⟨start + i * count, result.map (Relation.renumbered (· + i * count)),
          start + (i + 1) * count⟩ := by
  induction times generalizing before with
  | zero => rfl
  | succ times ih =>
    have hnext : start + count + before * count = start + (before + 1) * count := by
      rw [Nat.add_assoc, Nat.add_comm count, Nat.add_one_mul]
    have hrun := LoweringContext.runFrom_lowerPlan_add
      (.ofPlan p catalog acquireLock schema) (before * count) p start
    rw [h] at hrun
    rw [List.replicate_succ, outcomes, PlanCall.lower, hrun, List.range'_succ, List.map_cons]
    simp only [hnext, ih]

end PlanCall

/-- The count of scans is seen in nothing but the numbers of scans, so that lowering a plan again
only moves these. -/
theorem LoweringContext.lowerPlan_onlyRenumbers (p : Plan) (catalog : Lookups) (acquireLock : Bool)
    (schema : String) : OnlyRenumbers p catalog acquireLock schema where
  sameButNumbers := (LoweringContext.ofPlan p catalog acquireLock schema).sameButNumbers_lowerPlan p
  calls start := by
    rcases hrun : ((LoweringContext.ofPlan p catalog acquireLock schema).lowerPlan p).runFrom start
      with ⟨result, next⟩
    have hle := counts_lowerPlan (.ofPlan p catalog acquireLock schema) p start
    rw [hrun] at hle
    obtain ⟨count, rfl⟩ := Nat.exists_eq_add_of_le hle
    refine ⟨result, count, fun times => ?_⟩
    have houtcomes := PlanCall.outcomes_replicate hrun times 0
    rwa [Nat.zero_mul, Nat.add_zero, ← List.range_eq_range'] at houtcomes

end PlanImport
