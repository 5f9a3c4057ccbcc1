import PlanImport.Proofs.ReadBack.Value

/-!
# Expressions that are read back

The JSON of an expression is read back as this expression if there is no floating point number among
its constants and the positions of its columns fit into 64 bits, as those of the engine do.
-/

namespace PlanImport.Engine

open Json Json.Raw

variable {depth : Nat}

/-! ### Operators -/

lemma Connective.ofRaw?_toJson (op : Connective) : ofRaw? depth op.toJson.raw = some op := by
  cases op <;> rfl

lemma Comparison.ofRaw?_toJson (op : Comparison) : ofRaw? depth op.toJson.raw = some op := by
  cases op <;> rfl

lemma UnaryOperator.ofRaw?_toJson (op : UnaryOperator) : ofRaw? depth op.toJson.raw = some op := by
  cases op <;> rfl

lemma Connective.floatFree_toJson (op : Connective) : op.toJson.FloatFree := by
  cases op <;> trivial

lemma Comparison.floatFree_toJson (op : Comparison) : op.toJson.FloatFree := by
  cases op <;> trivial

lemma UnaryOperator.floatFree_toJson (op : UnaryOperator) : op.toJson.FloatFree := by
  cases op <;> trivial

/-! ### Expressions -/

namespace Expr

mutual

/-- There is no floating point number among the constants, and the positions of columns fit into 64
bits. -/
def Readable : Expr → Prop
  | constant v => v.FloatFree
  | column position => position < 2 ^ 64
  | call _ args _ => AllReadable args
  | conjunction _ children => AllReadable children
  | comparison _ left right => left.Readable ∧ right.Readable
  | unary _ operand => operand.Readable
  | case arms otherwise => ArmsReadable arms ∧ otherwise.Readable
  | cast _ operand => operand.Readable
  | between input lower upper => input.Readable ∧ lower.Readable ∧ upper.Readable
  | inList value options => value.Readable ∧ AllReadable options
  | struct fields => FieldsReadable fields
  | row fields => AllReadable fields
  | list items => AllReadable items
  | map key value => key.Readable ∧ value.Readable

def AllReadable : List Expr → Prop
  | [] => True
  | e :: rest => e.Readable ∧ AllReadable rest

def ArmsReadable : List (Expr × Expr) → Prop
  | [] => True
  | (condition, result) :: rest => condition.Readable ∧ result.Readable ∧ ArmsReadable rest

def FieldsReadable : List (String × Expr) → Prop
  | [] => True
  | (_, e) :: rest => e.Readable ∧ FieldsReadable rest

end

@[simp] lemma allReadable_iff {es : List Expr} :
    AllReadable es ↔ ∀ e ∈ es, e.Readable := by
  induction es with
  | nil => simp [AllReadable]
  | cons e es ih => simp [AllReadable, ih]

mutual

/-- An expression is read back. -/
lemma ofRaw?_toJson {depth : Nat} (e : Expr) (he : e.Readable)
    (h : e.toJson.raw.nesting ≤ depth) : ofRaw? depth e.toJson.raw = some e := by
  match e with
  | constant v =>
    rw [toJson] at h
    obtain ⟨d, rfl, hv⟩ := nesting_tagged_le_iff.mp h
    rw [toJson, ofRaw?, dif_neg (Nat.succ_ne_zero _), bind_choice?_tagged]
    simp [v.ofRaw?_toJson he hv]
  | column position =>
    rw [toJson] at h
    obtain ⟨d, rfl, -⟩ := nesting_tagged_le_iff.mp h
    have hposition := nat?_raw_jsonInt he (Nat.le_refl 64)
    rw [toJson, ofRaw?, dif_neg (Nat.succ_ne_zero _), bind_choice?_tagged]
    simp -implicitDefEqProofs [hposition]
  | call name args distinct =>
    rw [toJson] at h
    obtain ⟨d, rfl, hfields⟩ := nesting_tagged_object_le_iff.mp h
    obtain ⟨d, rfl, hargs⟩ := nesting_array_le_iff.mp
      (hfields ("args", .array (listToJson args)) (by simp))
    rw [toJson, ofRaw?, dif_neg (Nat.succ_ne_zero _), bind_choice?_tagged]
    simp [fields?_raw_object, items?_raw_array, text?_raw_string, bool?_raw_bool,
      mapM_listToJson args he hargs]
  | conjunction op children =>
    rw [toJson] at h
    obtain ⟨d, rfl, hfields⟩ := nesting_tagged_object_le_iff.mp h
    obtain ⟨d, rfl, hchildren⟩ := nesting_array_le_iff.mp
      (hfields ("children", .array (listToJson children)) (by simp))
    rw [toJson, ofRaw?, dif_neg (Nat.succ_ne_zero _), bind_choice?_tagged]
    simp [fields?_raw_object, items?_raw_array, op.ofRaw?_toJson,
      mapM_listToJson children he hchildren]
  | comparison op left right =>
    rw [toJson] at h
    obtain ⟨d, rfl, hfields⟩ := nesting_tagged_object_le_iff.mp h
    have hleft := ofRaw?_toJson left he.1 (hfields ("left", left.toJson) (by simp))
    have hright := ofRaw?_toJson right he.2 (hfields ("right", right.toJson) (by simp))
    rw [toJson, ofRaw?, dif_neg (Nat.succ_ne_zero _), bind_choice?_tagged]
    simp [fields?_raw_object, op.ofRaw?_toJson, hleft, hright]
  | unary op operand =>
    rw [toJson] at h
    obtain ⟨d, rfl, hfields⟩ := nesting_tagged_object_le_iff.mp h
    have hoperand := ofRaw?_toJson operand he (hfields ("operand", operand.toJson) (by simp))
    rw [toJson, ofRaw?, dif_neg (Nat.succ_ne_zero _), bind_choice?_tagged]
    simp [fields?_raw_object, op.ofRaw?_toJson, hoperand]
  | case arms otherwise =>
    rw [toJson] at h
    obtain ⟨d, rfl, hfields⟩ := nesting_tagged_object_le_iff.mp h
    obtain ⟨d, rfl, harms⟩ := nesting_array_le_iff.mp
      (hfields ("whens", .array (armsToJson arms)) (by simp))
    have hotherwise := ofRaw?_toJson otherwise he.2
      (hfields ("otherwise", otherwise.toJson) (by simp))
    have hread := mapM_armsToJson arms he.1 harms
    rw [toJson, ofRaw?, dif_neg (Nat.succ_ne_zero _), bind_choice?_tagged]
    exact Option.bind_eq_some_iff.mpr ⟨_, fields?_raw_object rfl (by decide),
      Option.bind_eq_some_iff.mpr ⟨_, items?_raw_array,
        Option.bind_eq_some_iff.mpr ⟨arms, hread,
          Option.bind_eq_some_iff.mpr ⟨otherwise, hotherwise, rfl⟩⟩⟩⟩
  | cast target operand =>
    rw [toJson] at h
    obtain ⟨d, rfl, hfields⟩ := nesting_tagged_object_le_iff.mp h
    have htarget := target.ofRaw?_toJson (hfields ("target", target.toJson) (by simp))
    have hoperand := ofRaw?_toJson operand he (hfields ("operand", operand.toJson) (by simp))
    rw [toJson, ofRaw?, dif_neg (Nat.succ_ne_zero _), bind_choice?_tagged]
    simp [fields?_raw_object, htarget, hoperand]
  | between input lower upper =>
    rw [toJson] at h
    obtain ⟨d, rfl, hfields⟩ := nesting_tagged_object_le_iff.mp h
    have hinput := ofRaw?_toJson input he.1 (hfields ("input", input.toJson) (by simp))
    have hlower := ofRaw?_toJson lower he.2.1 (hfields ("lower", lower.toJson) (by simp))
    have hupper := ofRaw?_toJson upper he.2.2 (hfields ("upper", upper.toJson) (by simp))
    rw [toJson, ofRaw?, dif_neg (Nat.succ_ne_zero _), bind_choice?_tagged]
    simp [fields?_raw_object, hinput, hlower, hupper]
  | inList value options =>
    rw [toJson] at h
    obtain ⟨d, rfl, hfields⟩ := nesting_tagged_object_le_iff.mp h
    have hvalue := ofRaw?_toJson value he.1 (hfields ("value", value.toJson) (by simp))
    obtain ⟨d, rfl, hoptions⟩ := nesting_array_le_iff.mp
      (hfields ("options", .array (listToJson options)) (by simp))
    rw [toJson, ofRaw?, dif_neg (Nat.succ_ne_zero _), bind_choice?_tagged]
    simp [fields?_raw_object, items?_raw_array, hvalue, mapM_listToJson options he.2 hoptions]
  | struct fields =>
    rw [toJson] at h
    obtain ⟨d, rfl, hitems⟩ := nesting_tagged_array_le_iff.mp h
    have hfields := mapM_fieldsToJson fields he hitems
    rw [toJson, ofRaw?, dif_neg (Nat.succ_ne_zero _), bind_choice?_tagged]
    exact Option.bind_eq_some_iff.mpr ⟨_, items?_raw_array,
      Option.bind_eq_some_iff.mpr ⟨fields, hfields, rfl⟩⟩
  | row fields =>
    rw [toJson] at h
    obtain ⟨d, rfl, hfields⟩ := nesting_tagged_array_le_iff.mp h
    rw [toJson, ofRaw?, dif_neg (Nat.succ_ne_zero _), bind_choice?_tagged]
    simp [items?_raw_array, mapM_listToJson fields he hfields]
  | list items =>
    rw [toJson] at h
    obtain ⟨d, rfl, hitems⟩ := nesting_tagged_array_le_iff.mp h
    rw [toJson, ofRaw?, dif_neg (Nat.succ_ne_zero _), bind_choice?_tagged]
    simp [items?_raw_array, mapM_listToJson items he hitems]
  | map key value =>
    rw [toJson] at h
    obtain ⟨d, rfl, hfields⟩ := nesting_tagged_object_le_iff.mp h
    have hkey := ofRaw?_toJson key he.1 (hfields ("key", key.toJson) (by simp))
    have hvalue := ofRaw?_toJson value he.2 (hfields ("value", value.toJson) (by simp))
    rw [toJson, ofRaw?, dif_neg (Nat.succ_ne_zero _), bind_choice?_tagged]
    simp [fields?_raw_object, hkey, hvalue]

/-- Each expression of a list is read back at the depth that is left inside of the array. -/
lemma mapM_listToJson {depth : Nat} (es : List Expr) (hes : AllReadable es)
    (h : ∀ v ∈ listToJson es, v.raw.nesting ≤ depth) :
    (itemsRaw (listToJson es)).mapM (ofRaw? depth) = some es := by
  match es with
  | [] => rfl
  | e :: rest =>
    rw [listToJson, List.forall_mem_cons] at h
    rw [listToJson, itemsRaw, List.mapM_cons, ofRaw?_toJson e hes.1 h.1,
      mapM_listToJson rest hes.2 h.2]
    rfl

/-- Arms are read back, each of them as an object with a condition and a result. -/
lemma mapM_armsToJson {depth : Nat} (arms : List (Expr × Expr)) (harms : ArmsReadable arms)
    (h : ∀ v ∈ armsToJson arms, v.raw.nesting ≤ depth) :
    (itemsRaw (armsToJson arms)).mapM (fun arm => do
      let [some condition, some result] ← arm.fields? ["when", "then"] depth | none
      return (← ofRaw? (depth - 1) condition, ← ofRaw? (depth - 1) result)) = some arms := by
  match arms with
  | [] => rfl
  | (condition, result) :: rest =>
    rw [armsToJson, List.forall_mem_cons] at h
    obtain ⟨d, rfl, harm⟩ := nesting_object_le_iff.mp h.1
    have hcondition := ofRaw?_toJson condition harms.1 (harm ("when", condition.toJson) (by simp))
    have hresult := ofRaw?_toJson result harms.2.1 (harm ("then", result.toJson) (by simp))
    rw [armsToJson, itemsRaw, List.mapM_cons, mapM_armsToJson rest harms.2.2 h.2]
    simp [fields?_raw_object, hcondition, hresult]

/-- Named fields are read back, each of them as an array of a name and an expression. -/
lemma mapM_fieldsToJson {depth : Nat} (fields : List (String × Expr))
    (hfields : FieldsReadable fields) (h : ∀ v ∈ fieldsToJson fields, v.raw.nesting ≤ depth) :
    (itemsRaw (fieldsToJson fields)).mapM (fun item => do
      let [name, e] ← item.items? depth | none
      return (← name.text?, ← ofRaw? (depth - 1) e)) = some fields := by
  match fields with
  | [] => rfl
  | (name, e) :: rest =>
    rw [fieldsToJson, List.forall_mem_cons] at h
    obtain ⟨d, rfl, hfield⟩ := nesting_array_le_iff.mp h.1
    have he := ofRaw?_toJson e hfields.1 (hfield e.toJson (by simp))
    have hrest := mapM_fieldsToJson rest hfields.2 h.2
    rw [fieldsToJson, itemsRaw, List.mapM_cons, hrest, items?_raw_array]
    simp [itemsRaw, text?_raw_string, he]

end

mutual

/-- Floating point numbers come only from constants, as positions are written as integers. -/
lemma floatFree_toJson (e : Expr) (he : e.Readable) : e.toJson.FloatFree := by
  match e with
  | constant v => simpa [toJson, tagged, FloatFree] using v.floatFree_toJson he
  | column position => simp [toJson, tagged, FloatFree, jsonInt]
  | call name args distinct =>
    simpa [toJson, tagged, FloatFree] using floatFree_listToJson args he
  | conjunction op children =>
    simpa [toJson, tagged, FloatFree, op.floatFree_toJson] using floatFree_listToJson children he
  | comparison op left right =>
    simp [toJson, tagged, FloatFree, op.floatFree_toJson, floatFree_toJson left he.1,
      floatFree_toJson right he.2]
  | unary op operand =>
    simp [toJson, tagged, FloatFree, op.floatFree_toJson, floatFree_toJson operand he]
  | case arms otherwise =>
    simpa [toJson, tagged, FloatFree, floatFree_toJson otherwise he.2] using
      floatFree_armsToJson arms he.1
  | cast target operand =>
    simp [toJson, tagged, FloatFree, target.floatFree_toJson, floatFree_toJson operand he]
  | between input lower upper =>
    simp [toJson, tagged, FloatFree, floatFree_toJson input he.1, floatFree_toJson lower he.2.1,
      floatFree_toJson upper he.2.2]
  | inList value options =>
    simpa [toJson, tagged, FloatFree, floatFree_toJson value he.1] using
      floatFree_listToJson options he.2
  | struct fields => simpa [toJson, tagged, FloatFree] using floatFree_fieldsToJson fields he
  | row fields => simpa [toJson, tagged, FloatFree] using floatFree_listToJson fields he
  | list items => simpa [toJson, tagged, FloatFree] using floatFree_listToJson items he
  | map key value =>
    simp [toJson, tagged, FloatFree, floatFree_toJson key he.1, floatFree_toJson value he.2]

lemma floatFree_listToJson (es : List Expr) (hes : AllReadable es) :
    ∀ v ∈ listToJson es, v.FloatFree := by
  match es with
  | [] => simp [listToJson]
  | e :: rest => simpa [listToJson, floatFree_toJson e hes.1] using floatFree_listToJson rest hes.2

lemma floatFree_armsToJson (arms : List (Expr × Expr)) (harms : ArmsReadable arms) :
    ∀ v ∈ armsToJson arms, v.FloatFree := by
  match arms with
  | [] => simp [armsToJson]
  | (condition, result) :: rest =>
    simpa [armsToJson, FloatFree, floatFree_toJson condition harms.1,
      floatFree_toJson result harms.2.1] using floatFree_armsToJson rest harms.2.2

lemma floatFree_fieldsToJson (fields : List (String × Expr)) (hfields : FieldsReadable fields) :
    ∀ v ∈ fieldsToJson fields, v.FloatFree := by
  match fields with
  | [] => simp [fieldsToJson]
  | (name, e) :: rest =>
    simpa [fieldsToJson, FloatFree, floatFree_toJson e hfields.1] using
      floatFree_fieldsToJson rest hfields.2

end

end Expr

end PlanImport.Engine
