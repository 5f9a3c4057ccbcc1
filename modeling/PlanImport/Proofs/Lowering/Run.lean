import PlanImport.Lowering.Context
import PlanImport.Proofs.Result

/-!
# Runs of a lowering

A lowering runs from a number for its next scan. It ends with a value or a refusal, and with the
number that the next scan gets; a refusal keeps what has been counted up to it.
-/

namespace PlanImport

variable {α β γ : Type}

namespace Lowering

/-- The outcome of a lowering that numbers its scans from `n` on, with the next number. -/
def runFrom (m : Lowering α) (n : Nat) : Except Refusal α × Nat := (ExceptT.run m).run n

@[simp] lemma runFrom_pure (a : α) (n : Nat) : (pure a : Lowering α).runFrom n = (.ok a, n) := rfl

@[simp] lemma runFrom_throw (e : Refusal) (n : Nat) :
    (throw e : Lowering α).runFrom n = (.error e, n) := rfl

@[simp] lemma runFrom_lift (r : Except Refusal α) (n : Nat) : (lift r).runFrom n = (r, n) := rfl

@[simp] lemma runFrom_scanName (stem : String) (n : Nat) :
    (scanName stem).runFrom n = (.ok (stem ++ "_" ++ .ofList (Text.digits n)), n + 1) := rfl

lemma lift_ok_bind (a : α) (f : α → Lowering β) : lift (.ok a) >>= f = f a := rfl

/-- Two lowerings are equal if they run alike from every number. -/
lemma ext_runFrom {m m' : Lowering α} (h : ∀ n, m.runFrom n = m'.runFrom n) : m = m' :=
  funext h

lemma runFrom_bind (m : Lowering α) (f : α → Lowering β) (n : Nat) :
    (m >>= f).runFrom n = match m.runFrom n with
      | (.ok a, k) => (f a).runFrom k
      | (.error e, k) => (.error e, k) := by
  simp only [runFrom, ExceptT.run_bind, StateT.run_bind]
  rcases (ExceptT.run m).run n with ⟨r, k⟩
  cases r <;> rfl

lemma runFrom_map (f : α → β) (m : Lowering α) (n : Nat) :
    (f <$> m).runFrom n = ((m.runFrom n).1.map f, (m.runFrom n).2) := by
  rw [map_eq_pure_bind, runFrom_bind]
  rcases m.runFrom n with ⟨r, k⟩
  cases r <;> rfl

/-- A sequence ends with a value exactly if both of its parts do. -/
lemma runFrom_bind_eq_ok {m : Lowering α} {f : α → Lowering β} {n k : Nat} {b : β} :
    (m >>= f).runFrom n = (.ok b, k) ↔
      ∃ a j, m.runFrom n = (.ok a, j) ∧ (f a).runFrom j = (.ok b, k) := by
  rw [runFrom_bind]
  rcases m.runFrom n with ⟨r, j⟩
  cases r with
  | ok a =>
    constructor
    · intro h
      exact ⟨a, j, rfl, h⟩
    · rintro ⟨a', j', h, hf⟩
      cases h
      exact hf
  | error e => simp

/-- A step that numbers nothing hands its number on. -/
lemma runFrom_lift_bind_eq_ok {r : Except Refusal α} {f : α → Lowering β} {n k : Nat} {b : β} :
    (lift r >>= f).runFrom n = (.ok b, k) ↔
      ∃ a, r = .ok a ∧ (f a).runFrom n = (.ok b, k) := by
  rw [runFrom_bind_eq_ok]
  simp only [runFrom_lift, Prod.mk.injEq]
  constructor
  · rintro ⟨a, j, ⟨hr, rfl⟩, h⟩
    exact ⟨a, hr, h⟩
  · rintro ⟨a, hr, h⟩
    exact ⟨a, n, ⟨hr, rfl⟩, h⟩

/-- A last step that only builds the value numbers nothing. -/
lemma runFrom_bind_pure_eq_ok {m : Lowering α} {f : α → β} {n k : Nat} {b : β} :
    (m >>= fun a => pure (f a)).runFrom n = (.ok b, k) ↔
      ∃ a, m.runFrom n = (.ok a, k) ∧ b = f a := by
  rw [runFrom_bind_eq_ok]
  simp only [runFrom_pure, Prod.mk.injEq, Except.ok.injEq]
  constructor
  · rintro ⟨a, j, h, rfl, rfl⟩
    exact ⟨a, h, rfl⟩
  · rintro ⟨a, h, rfl⟩
    exact ⟨a, k, h, rfl, rfl⟩

/-- Two steps, of which the second one only needs the number from the first one. -/
lemma runFrom_bind_bind_pure_eq_ok {m : Lowering α} {m' : Lowering β} {f : α → β → γ}
    {n k : Nat} {x : γ} :
    (m >>= fun a => m' >>= fun b => pure (f a b)).runFrom n = (.ok x, k) ↔
      ∃ a b j, m.runFrom n = (.ok a, j) ∧ m'.runFrom j = (.ok b, k) ∧ x = f a b := by
  rw [runFrom_bind_eq_ok]
  simp only [runFrom_bind_pure_eq_ok]
  constructor
  · rintro ⟨a, j, hm, b, hm', hx⟩
    exact ⟨a, b, j, hm, hm', hx⟩
  · rintro ⟨a, b, j, hm, hm', hx⟩
    exact ⟨a, j, hm, b, hm', hx⟩

/-- Values that a function does not change stay the same under it. -/
lemma map_eq_self {f : α → α} {m : Lowering α}
    (h : ∀ n a k, m.runFrom n = (.ok a, k) → f a = a) : f <$> m = m := by
  apply ext_runFrom
  intro n
  rw [runFrom_map]
  rcases hm : m.runFrom n with ⟨r, k⟩
  cases r with
  | ok a => rw [Except.map, h n a k hm]
  | error e => rfl

end Lowering

end PlanImport
