import Mathlib.Data.Finset.Card
import Mathlib.Data.Finset.Dedup
import PlanImport.Keyed

/-!
# Keyed values that are put in one after the other

The latest value under a key is the one that is found there, and each key counts once.
-/

namespace PlanImport.Keyed

variable {κ α : Type} [DecidableEq κ]

/-- Put values under their keys, in their order. -/
def insertAll (t : Keyed κ α) (entries : List (κ × α)) : Keyed κ α :=
  entries.foldl (fun t e => t.insert e.1 e.2) t

@[simp] lemma insertAll_nil (t : Keyed κ α) : t.insertAll [] = t := rfl

@[simp] lemma insertAll_cons (t : Keyed κ α) (e : κ × α) (entries : List (κ × α)) :
    t.insertAll (e :: entries) = (t.insert e.1 e.2).insertAll entries := rfl

/-- Under a key there is the latest value that was put there. -/
lemma get?_insertAll (t : Keyed κ α) (entries : List (κ × α)) (key : κ) :
    (t.insertAll entries).get? key = (entries.reverse.lookup key).or (t.get? key) := by
  induction entries generalizing t with
  | nil => rfl
  | cons e entries ih =>
    obtain ⟨key', value⟩ := e
    rw [insertAll_cons, ih, List.reverse_cons, List.lookup_append, Option.or_assoc, get?_insert]
    congr 1
    by_cases h : key = key'
    · simp [h]
    · simp [List.lookup_cons, h, beq_eq_false_iff_ne.mpr h]

lemma isSome_lookup_iff {entries : List (κ × α)} {key : κ} :
    (entries.lookup key).isSome ↔ key ∈ entries.map Prod.fst := by
  simp only [List.lookup_isSome_iff, List.mem_map, beq_iff_eq, eq_comm (a := key)]

/-- Each key counts once, however often something was put there. -/
lemma size_insertAll (entries : List (κ × α)) :
    ((empty : Keyed κ α).insertAll entries).size = (entries.map Prod.fst).toFinset.card := by
  have hkeys : ∀ key, key ∈ ((empty : Keyed κ α).insertAll entries).entries.map Prod.fst ↔
      key ∈ entries.map Prod.fst := by
    intro key
    rw [← isSome_lookup_iff, ← get?, get?_insertAll, get?_empty, Option.or_none,
      isSome_lookup_iff, List.map_reverse, List.mem_reverse]
  rw [size, ← List.length_map Prod.fst, ← List.toFinset_card_of_nodup (insertAll _ _).nodup]
  congr 1
  ext key
  rw [List.mem_toFinset, List.mem_toFinset, hkeys]

end PlanImport.Keyed
