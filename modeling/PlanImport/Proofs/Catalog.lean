import Mathlib.Tactic.Common
import PlanImport.Engine.Catalog

/-!
# Objects under qualified names

A catalog that is filled object by object keeps each table under its own qualified name. Such a name
has a point between the schema and the name, so that it says which is which only if there is no
other point in it.
-/

namespace PlanImport.Engine

/-! ### Qualified names -/

lemma toList_qualifiedName (schema name : String) :
    (qualifiedName schema name).toList = schema.toList ++ '.' :: name.toList := by
  simp [qualifiedName]

/-- At most one place of a list without the separator on either side splits it. -/
lemma eq_of_append_cons_eq {α : Type} {separator : α} {l r l' r' : List α}
    (h : l' ++ separator :: r' = l ++ separator :: r) (hl : separator ∉ l) (hr : separator ∉ r) :
    l' = l ∧ r' = r := by
  rcases List.append_eq_append_iff.mp h with ⟨m, hm, hm'⟩ | ⟨m, hm, hm'⟩
  · rcases m with _ | ⟨x, m⟩
    · simp_all
    · obtain ⟨rfl, -⟩ := List.cons.inj hm'
      exact absurd (by simp [hm]) hl
  · rcases m with _ | ⟨x, m⟩
    · simp_all
    · obtain ⟨rfl, rfl⟩ := List.cons.inj hm'
      exact absurd (by simp) hr

/-- A qualified name is that of no other object exactly if neither of its parts has a point. -/
lemma forall_qualifiedName_eq_iff {schema name : String} :
    (∀ schema' name', qualifiedName schema' name' = qualifiedName schema name →
      schema' = schema ∧ name' = name) ↔ '.' ∉ schema.toList ∧ '.' ∉ name.toList := by
  constructor
  · intro h
    constructor
    · intro hmem
      obtain ⟨l, r, hlr⟩ := List.append_of_mem hmem
      obtain ⟨hl, -⟩ := h (.ofList l) (.ofList (r ++ '.' :: name.toList)) (by
        rw [← String.toList_inj, toList_qualifiedName, toList_qualifiedName]
        simp [hlr])
      have := congrArg String.toList hl
      simp [hlr] at this
    · intro hmem
      obtain ⟨l, r, hlr⟩ := List.append_of_mem hmem
      obtain ⟨hl, -⟩ := h (.ofList (schema.toList ++ '.' :: l)) (.ofList r) (by
        rw [← String.toList_inj, toList_qualifiedName, toList_qualifiedName]
        simp [hlr])
      have := congrArg String.toList hl
      simp at this
  · rintro ⟨hschema, hname⟩ schema' name' h
    rw [← String.toList_inj, toList_qualifiedName, toList_qualifiedName] at h
    obtain ⟨hs, hn⟩ := eq_of_append_cons_eq h hschema hname
    exact ⟨String.toList_inj.mp hs, String.toList_inj.mp hn⟩

/-! ### Tables under their own names -/

namespace Catalog

variable {c : Catalog} {schema name : String} {info : TableInfo}

/-- Every table is kept under its own qualified name. -/
def KeepsOwnNames (c : Catalog) : Prop :=
  ∀ key info, c.tables.get? key = some info → info.key = key

lemma keepsOwnNames_empty : empty.KeepsOwnNames := by
  intro key info h
  cases h

/-- A table that is added is kept under its own name, and the others are left as they are. -/
lemma KeepsOwnNames.insertTable (h : c.KeepsOwnNames) (t : TableInfo) :
    (c.insertTable t).KeepsOwnNames := by
  intro key info hget
  rw [Catalog.insertTable, Keyed.get?_insert] at hget
  split_ifs at hget with hkey
  · cases hget
    exact hkey.symm
  · exact h key info hget

lemma findTable_eq_ok :
    c.findTable schema name = .ok info ↔
      c.tables.get? (qualifiedName schema name) = some info := by
  unfold findTable
  cases c.tables.get? (qualifiedName schema name) with
  | none => simp
  | some t => simp

lemma findTable_insertTable (c : Catalog) (h : info.key = qualifiedName schema name) :
    (c.insertTable info).findTable schema name = .ok info := by
  rw [findTable_eq_ok, insertTable, Keyed.get?_insert, if_pos h.symm]

/-- What is found under a name has that qualified name. -/
lemma KeepsOwnNames.key_eq (h : c.KeepsOwnNames) (hf : c.findTable schema name = .ok info) :
    info.key = qualifiedName schema name :=
  h _ _ (findTable_eq_ok.mp hf)

end Catalog

end PlanImport.Engine
