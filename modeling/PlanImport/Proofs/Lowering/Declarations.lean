import Mathlib.Data.List.TakeWhile
import PlanImport.Proofs.Keyed
import PlanImport.Proofs.Lowering.Corresponding
import PlanImport.Proofs.Naming.FlatList

/-!
# What declarations come down to

Of the declarations of a plan a lowering sees, for each anchor, the part in front of the first colon
of the name that is declared last. In what order the others stand, how often a name is declared,
which types and files are declared and what else the plan has besides its first relation makes no
difference.
-/

namespace PlanImport

open Engine Plan
open Lowering

/-! ### Declared names -/

/-- The function that a declaration declares, with its anchor in front. -/
def Plan.Declaration.function? : Declaration → Option (UInt32 × String)
  | .function _ anchor name => some (anchor, name)
  | .other => none

namespace Plan

/-- The name that is declared last under an anchor. -/
def lastName? (p : Plan) (anchor : UInt32) : Option String :=
  (p.extensions.filterMap Declaration.function?).reverse.lookup anchor

/-- Two plans begin with the same relation, and under each anchor there is a function in both of
them or in neither, where the names that are declared last agree up to the first colon. -/
structure SameCalls (p p' : Plan) : Prop where
  first : p.relations.head? = p'.relations.head?
  names : ∀ anchor, (p.lastName? anchor).map plainName = (p'.lastName? anchor).map plainName

end Plan

namespace FunctionTable

lemma ofDeclarations_eq_insertAll (declarations : List Declaration) :
    ofDeclarations declarations =
      Keyed.empty.insertAll (declarations.filterMap Declaration.function?) := by
  rw [Keyed.insertAll, List.foldl_filterMap, ofDeclarations]
  congr 1
  funext t d
  cases d <;> rfl

lemma get?_ofPlan (p : Plan) (anchor : UInt32) : (ofPlan p).get? anchor = p.lastName? anchor := by
  rw [ofPlan, ofDeclarations_eq_insertAll, Keyed.get?_insertAll, Keyed.get?_empty, Option.or_none,
    Plan.lastName?]

end FunctionTable

namespace Plan.SameCalls

variable {p p' : Plan}

lemma sameNames (h : p.SameCalls p') :
    (FunctionTable.ofPlan p).SameNames (FunctionTable.ofPlan p') := by
  intro anchor
  rw [FunctionTable.get?_ofPlan, FunctionTable.get?_ofPlan, h.names]

/-- All scans stay as they are. -/
lemma scansCorrespond (h : p.SameCalls p') (catalog : Lookups) (acquireLock : Bool)
    (schema : String) :
    LoweringContext.ScansCorrespond id (fun _ name => name) id
      (.ofPlan p catalog acquireLock schema) (.ofPlan p' catalog acquireLock schema) where
  functions := h.sameNames
  catalog := rfl
  defaultSchema := rfl
  shape := ⟨fun _ => rfl, fun _ => rfl⟩
  name _ stem _ n := by rw [runFrom_scanName]; rfl
  table _ := rfl
  view _ := rfl
  inline _ := rfl
  tableFunction _ _ _ _ := rfl

end Plan.SameCalls

/-! ### Names in the engine -/

lemma plainName_plainName (name : String) : plainName (plainName name) = plainName name := by
  rw [plainName, plainName, String.toList_ofList, List.takeWhile_idem]

/-- The names in the engine have no colon, and none of them is that of a function which has another
name there. -/
lemma plain_of_mem_engineNames :
    ∀ e ∈ engineNames, plainName e.2 = e.2 ∧ engineNames.lookup e.2 = none := by
  decide +kernel

lemma engineName_of_lookup {name engine : String}
    (h : engineNames.lookup (plainName name) = some engine) : engineName name = engine := by
  rw [engineName, h, Option.getD_some]

lemma engineName_of_none {name : String} (h : engineNames.lookup (plainName name) = none) :
    engineName name = plainName name := by
  rw [engineName, h, Option.getD_none]

/-- No name that the engine uses in place of another is replaced itself. -/
lemma engineName_engineName (name : String) : engineName (engineName name) = engineName name := by
  cases h : engineNames.lookup (plainName name) with
  | none =>
    rw [engineName_of_none h, engineName_of_none (by rw [plainName_plainName, h]),
      plainName_plainName]
  | some engine =>
    obtain ⟨before, after, hsplit, -⟩ := List.lookup_eq_some_iff.mp h
    have hmem : (plainName name, engine) ∈ engineNames := by simp [hsplit]
    obtain ⟨hplain, hnone⟩ := plain_of_mem_engineNames _ hmem
    rw [engineName_of_lookup h, engineName_of_none (by rw [hplain, hnone]), hplain]

/-! ### Plans that call the same functions -/

/-- A filter of the places by a comparison, under the anchor 8, of a call of the function under the
anchor 7. -/
def comparedPlaces : Rel :=
  .filter (some placesRead) (some (.call 8
    [.value (.call 7 [.value (inputField 1), .value (.literal ⟨.i32 5, false⟩)]),
      .value (.literal ⟨.i32 0, false⟩)]))

/-- A plan that declares another function under the anchor 7 first. -/
def redeclaringPlan : Plan :=
  ⟨[], [.function 1 7 "sum:i64", .function 1 8 "gt:i32_i32", .function 1 7 "modulus:i32_i32"],
    [.rel comparedPlaces], none⟩

/-- A plan that declares the same functions for other types, and more that is not called. -/
def declaringPlan : Plan :=
  ⟨[⟨2, "/functions_comparison.yaml"⟩],
    [.other, .function 2 7 "modulus:any_any", .function 2 8 "gt:any_any", .other],
    [.rel comparedPlaces, .unset], some ⟨0, 57, 0, "", "planner"⟩⟩

/-- Both plans call the functions under 7 and 8 by the same names, whatever else they declare. -/
lemma redeclaringPlan_sameCalls : redeclaringPlan.SameCalls declaringPlan where
  first := rfl
  names anchor := by
    have hfirst : redeclaringPlan.lastName? anchor = List.lookup anchor
      [(7, "modulus:i32_i32"), (8, "gt:i32_i32"), (7, "sum:i64")] := rfl
    have hsecond : declaringPlan.lastName? anchor =
      List.lookup anchor [(8, "gt:any_any"), (7, "modulus:any_any")] := rfl
    rw [hfirst, hsecond]
    by_cases h7 : anchor = 7
    · subst h7
      decide +kernel
    · by_cases h8 : anchor = 8
      · subst h8
        decide +kernel
      · simp only [List.lookup_cons, beq_eq_false_iff_ne.mpr h7, beq_eq_false_iff_ne.mpr h8,
          List.lookup_nil]

namespace LoweringContext

/-- Plans that begin with the same relation and call functions by the same names are lowered alike,
refusals and numbers of scans included; and the name of a function in the engine is its own name
there. -/
theorem lowerPlan_eq_of_sameCalls :
    (∀ p p' : Plan, p.SameCalls p' →
      ∀ (catalog : Lookups) (acquireLock : Bool) (schema : String) (n : Nat),
      ((ofPlan p catalog acquireLock schema).lowerPlan p).runFrom n =
        ((ofPlan p' catalog acquireLock schema).lowerPlan p').runFrom n) ∧
    ∀ name, engineName (engineName name) = engineName name := by
  refine ⟨fun p p' h catalog acquireLock schema n => ?_, engineName_engineName⟩
  have hruns := (h.scansCorrespond catalog acquireLock schema).lowerPlan h.first n
  rw [show Relation.mapScans id = id from funext Relation.mapScans_id] at hruns
  rw [id, Except.map_id] at hruns
  exact hruns.symm

/-- The plan with two declarations under an anchor and the one with a single declaration among
others call the same function, which has another name in the engine. -/
theorem lowerPlan_eq_of_declared_again :
    redeclaringPlan.SameCalls declaringPlan ∧
      ((ofPlan redeclaringPlan placesContext.catalog true "main").lowerPlan
          redeclaringPlan).runFrom 0 =
        ((ofPlan declaringPlan placesContext.catalog true "main").lowerPlan
          declaringPlan).runFrom 0 ∧
      ((ofPlan declaringPlan placesContext.catalog true "main").lowerPlan
          declaringPlan).runFrom 0 =
        (.ok (.filter (.table places .acquire)
          (.comparison .greaterThan (.call "mod" [.column 2, .constant (.integer 5)] false)
            (.constant (.integer 0)))), 0) ∧
      engineName "modulus:any_any" = "mod" ∧ engineName (engineName "modulus:any_any") = "mod" := by
  have hname : engineName "modulus:any_any" = "mod" := by decide +kernel
  refine ⟨redeclaringPlan_sameCalls,
    lowerPlan_eq_of_sameCalls.1 _ _ redeclaringPlan_sameCalls _ _ _ _, rfl, hname, ?_⟩
  rw [lowerPlan_eq_of_sameCalls.2, hname]

end LoweringContext

end PlanImport
