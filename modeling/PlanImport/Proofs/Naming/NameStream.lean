import Mathlib.Tactic.Common
import PlanImport.Lowering.NameStream

/-!
# What a stream of names hands out

Names are handed out from where the stream stands, and only if there are enough of them. What has
been handed out is passed.
-/

namespace PlanImport.NameStream

variable {s s' : NameStream} {count : Nat} {names : List String}

/-! ### Passing names -/

def pass (s : NameStream) (count : Nat) : NameStream := { s with position := s.position + count }

lemma skip_eq_pass (s : NameStream) : s.skip = s.pass 1 := rfl

@[simp] lemma pass_pass (s : NameStream) (m n : Nat) : (s.pass m).pass n = s.pass (m + n) := by
  simp [pass, Nat.add_assoc]

@[simp] lemma rest_pass (s : NameStream) (count : Nat) :
    (s.pass count).rest = s.rest.drop count := by
  simp [pass, rest]

@[simp] lemma rest_ofList (names : List String) : (ofList names).rest = names := by
  simp [ofList, rest]

/-! ### Names that are handed out -/

lemma window?_eq_some_iff :
    s.window? count = some names ↔
      s.position + count ≤ s.names.length ∧ names = s.rest.take count := by
  unfold window?
  split_ifs with h
  · simp [h, eq_comm]
  · simp [h]

/-- A stream that ends early has no distinct names, whatever is left. -/
lemma hasDistinct_iff :
    s.hasDistinct count = true ↔
      s.position + count ≤ s.names.length ∧ (s.rest.take count).Nodup := by
  unfold hasDistinct
  cases h : s.window? count with
  | none =>
    have hle : ¬ s.position + count ≤ s.names.length := by
      intro hle
      rw [window?_eq_some_iff.mpr ⟨hle, rfl⟩] at h
      cases h
    simp [hle]
  | some names =>
    obtain ⟨hle, rfl⟩ := window?_eq_some_iff.mp h
    simp [hle]

/-- Names are taken from those that are left, and all of them are passed at once. -/
lemma take?_eq_some_iff :
    s.take? count = some (names, s') ↔
      s.position + count ≤ s.names.length ∧ names = s.rest.take count ∧ s' = s.pass count := by
  unfold take?
  rw [Option.map_eq_some_iff]
  constructor
  · rintro ⟨names', hw, h⟩
    obtain ⟨hle, rfl⟩ := window?_eq_some_iff.mp hw
    cases h
    exact ⟨hle, rfl, rfl⟩
  · rintro ⟨hle, rfl, rfl⟩
    exact ⟨_, window?_eq_some_iff.mpr ⟨hle, rfl⟩, rfl⟩

end PlanImport.NameStream
