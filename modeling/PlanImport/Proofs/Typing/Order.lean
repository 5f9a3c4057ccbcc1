import Mathlib.Data.List.Forall2
import Mathlib.Order.Defs.PartialOrder
import PlanImport.Engine.Expr

/-!
# Types ordered by what is known of them

An unknown type may turn out to be any other one. The types of an expression over the columns of
an input only become better known if those of the columns do, and a column then has no fewer names
in a flat list.
-/

namespace PlanImport.Engine

namespace SqlType

/-! ### The order -/

mutual

/-- Whether a type is another one as far as it is known. -/
inductive Below : SqlType → SqlType → Prop
  | unknown (t : SqlType) : Below .unknown t
  | refl (t : SqlType) : Below t t
  | list {s t : SqlType} (h : Below s t) : Below (.list s) (.list t)
  | map {key key' value value' : SqlType} (hkey : Below key key') (hvalue : Below value value') :
    Below (.map key value) (.map key' value')
  | struct {fields fields' : List (String × SqlType)} (h : FieldsBelow fields fields') :
    Below (.struct fields) (.struct fields')

inductive FieldsBelow : List (String × SqlType) → List (String × SqlType) → Prop
  | nil : FieldsBelow [] []
  | cons {name : String} {s t : SqlType} {fields fields' : List (String × SqlType)}
    (h : Below s t) (hrest : FieldsBelow fields fields') :
    FieldsBelow ((name, s) :: fields) ((name, t) :: fields')

end

mutual

/-- The order is transitive, by recursion on both derivations at once and together with that of
fields. -/
lemma Below.trans {s t u : SqlType} (h : Below s t) (h' : Below t u) : Below s u := by
  match h, h' with
  | .unknown _, _ => exact .unknown u
  | .refl _, h' => exact h'
  | h, .refl _ => exact h
  | .list h, .list h' => exact .list (h.trans h')
  | .map hkey hvalue, .map hkey' hvalue' => exact .map (hkey.trans hkey') (hvalue.trans hvalue')
  | .struct h, .struct h' => exact .struct (h.trans h')

lemma FieldsBelow.trans {fs gs hs : List (String × SqlType)} (h : FieldsBelow fs gs)
    (h' : FieldsBelow gs hs) : FieldsBelow fs hs := by
  match h, h' with
  | .nil, .nil => exact .nil
  | .cons h hrest, .cons h' hrest' => exact .cons (h.trans h') (hrest.trans hrest')

end

mutual

/-- The order is antisymmetric: two types that are each the other one as far as it is known are the
same type. -/
lemma Below.antisymm {s t : SqlType} (h : Below s t) (h' : Below t s) : s = t := by
  match h, h' with
  | .refl _, _ => rfl
  | _, .refl _ => rfl
  | .unknown _, .unknown _ => rfl
  | .list h, .list h' => rw [h.antisymm h']
  | .map hkey hvalue, .map hkey' hvalue' => rw [hkey.antisymm hkey', hvalue.antisymm hvalue']
  | .struct h, .struct h' => rw [h.antisymm h']

lemma FieldsBelow.antisymm {fs gs : List (String × SqlType)} (h : FieldsBelow fs gs)
    (h' : FieldsBelow gs fs) : fs = gs := by
  match h, h' with
  | .nil, .nil => rfl
  | .cons h hrest, .cons h' hrest' => rw [h.antisymm h', hrest.antisymm hrest']

end

instance : PartialOrder SqlType where
  le := Below
  le_refl := .refl
  le_trans _ _ _ := Below.trans
  le_antisymm _ _ := Below.antisymm

/-! ### Names in a flat list -/

mutual

lemma Below.innerNames_le {s t : SqlType} (h : Below s t) : s.innerNames ≤ t.innerNames := by
  match h with
  | .unknown _ => exact Nat.zero_le _
  | .refl _ => exact Nat.le_refl _
  | .list _ | .map .. => exact Nat.le_refl _
  | .struct h => exact h.fieldNames_le

/-- The names of the fields are known, so only names inside their types can be more. -/
lemma FieldsBelow.fieldNames_le {fs gs : List (String × SqlType)} (h : FieldsBelow fs gs) :
    fieldNames fs ≤ fieldNames gs := by
  match h with
  | .nil => exact Nat.le_refl _
  | .cons h hrest =>
    have hfirst := h.innerNames_le
    have hothers := hrest.fieldNames_le
    rw [fieldNames, fieldNames]
    omega

end

/-! ### The first known type -/

lemma eq_sqlNull_of_isNull {t : SqlType} (h : t.isNull = true) : t = sqlNull := by
  cases t with
  | sqlNull => rfl
  | _ => cases h

lemma firstKnown_cons (t : SqlType) (ts : List SqlType) :
    firstKnown (t :: ts) = if t.isNull then firstKnown ts else t := by
  rw [firstKnown, List.find?_cons]
  cases t.isNull <;> rfl

/-- Another type may come first only after an unknown one, which is below every type. -/
lemma firstKnown_le {ss ts : List SqlType} (h : List.Forall₂ (· ≤ ·) ss ts) :
    firstKnown ss ≤ firstKnown ts := by
  induction h with
  | nil => exact le_refl _
  | @cons s t ss ts hle _ ih =>
    rw [firstKnown_cons, firstKnown_cons]
    by_cases hs : s.isNull = true
    · obtain rfl := eq_sqlNull_of_isNull hs
      cases hle
      exact ih
    rw [if_neg hs]
    by_cases ht : t.isNull = true
    · obtain rfl := eq_sqlNull_of_isNull ht
      cases hle with
      | unknown => exact .unknown _
      | refl => exact absurd rfl hs
    · rwa [if_neg ht]

end SqlType

open SqlType

/-! ### Types of expressions -/

/-- Whether the columns of an input are others as far as they are known: each of them has one at
its place of which no less is known. -/
def ColumnsBelow (ts us : List SqlType) : Prop :=
  ∀ (i : Nat) (t : SqlType), ts[i]? = some t → ∃ u, us[i]? = some u ∧ t ≤ u

namespace Expr

lemma fieldsBelow_numbered {ss ts : List SqlType} (h : List.Forall₂ (· ≤ ·) ss ts) (n : Nat) :
    FieldsBelow (typeOver.numbered n ss) (typeOver.numbered n ts) := by
  induction h generalizing n with
  | nil => exact .nil
  | cons hle _ ih => exact .cons hle (ih (n + 1))

variable {ts us : List SqlType}

mutual

/-- The type of an expression grows with the types of the columns. The recursion follows the
expression, in which only columns look at the input. -/
lemma typeOver_le (h : ColumnsBelow ts us) (e : Expr) : e.typeOver ts ≤ e.typeOver us := by
  match e with
  | .constant _ | .call .. | .conjunction .. | .comparison .. | .unary .. | .between ..
  | .inList .. | .cast .. | .column 0 | .list [] => exact le_refl _
  | .column (i + 1) =>
    rw [typeOver, typeOver]
    cases ht : ts[i]? with
    | none => exact .unknown _
    | some t =>
      obtain ⟨u, hu, hle⟩ := h i t ht
      rw [hu]
      exact hle
  | .case arms otherwise =>
    have hotherwise := typeOver_le h otherwise
    rw [typeOver, typeOver]
    exact firstKnown_le (List.rel_append (armTypes_le h arms) (.cons hotherwise .nil))
  | .struct fields => exact .struct (fieldTypes_below h fields)
  | .row fields => exact .struct (fieldsBelow_numbered (typesOver_le h fields) 1)
  | .list (first :: _) => exact .list (typeOver_le h first)
  | .map key value => exact .map (typeOver_le h key) (typeOver_le h value)

lemma typesOver_le (h : ColumnsBelow ts us) (es : List Expr) :
    List.Forall₂ (· ≤ ·) (typesOver ts es) (typesOver us es) := by
  match es with
  | [] => exact .nil
  | e :: es => exact .cons (typeOver_le h e) (typesOver_le h es)

lemma armTypes_le (h : ColumnsBelow ts us) (arms : List (Expr × Expr)) :
    List.Forall₂ (· ≤ ·) (armTypes ts arms) (armTypes us arms) := by
  match arms with
  | [] => exact .nil
  | (_, result) :: arms => exact .cons (typeOver_le h result) (armTypes_le h arms)

lemma fieldTypes_below (h : ColumnsBelow ts us) (fields : List (String × Expr)) :
    FieldsBelow (fieldTypes ts fields) (fieldTypes us fields) := by
  match fields with
  | [] => exact .nil
  | (_, e) :: fields => exact .cons (typeOver_le h e) (fieldTypes_below h fields)

end

/-- Over columns of which more is known an expression has the same type as far as it was known, and
no fewer names inside of it. -/
theorem typeOver_mono (h : ColumnsBelow ts us) (e : Expr) : e.typeOver ts ≤ e.typeOver us ∧
    (e.typeOver ts).innerNames ≤ (e.typeOver us).innerNames :=
  ⟨typeOver_le h e, (typeOver_le h e).innerNames_le⟩

/-- The first column turns out to be NULL, so that the case has the type of its second result, and
the second one to be a struct with two names inside of it. -/
theorem typeOver_mono_case :
    let ts : List SqlType := [.unknown, .unknown]
    let us : List SqlType := [.sqlNull, .struct [("lat", .double), ("lon", .double)], .date]
    let e : Expr := .row [.case [(.unary .isNull (.column 2), .column 1)] (.column 2), .column 3]
    ColumnsBelow ts us ∧ (e.typeOver ts ≤ e.typeOver us ∧
      (e.typeOver ts).innerNames ≤ (e.typeOver us).innerNames) ∧
      (e.typeOver ts).innerNames = 2 ∧ (e.typeOver us).innerNames = 4 := by
  intro ts us e
  have h : ColumnsBelow ts us := by
    intro i t ht
    match i with
    | 0 | 1 =>
      cases ht
      exact ⟨_, rfl, .unknown _⟩
    | i + 2 => simp [ts] at ht
  exact ⟨h, typeOver_mono h e, rfl, rfl⟩

end Expr

end PlanImport.Engine
