import PlanImport.Proofs.ReadBack.Expression
import PlanImport.Proofs.Service.Requests

/-!
# Relations that are read back

The JSON that is answered for a relation is read back as this relation, whatever it consists of,
unless there is a floating point number in it or it nests too deeply for the reader.
-/

namespace PlanImport.Engine

open Json Json.Raw

variable {depth : Nat}

/-! ### Lists -/

section Lists

variable {α : Type} (read : Nat → Raw → Option α) {toJson : α → Json}
  {toJsons : List α → List Json} {items : List Json} {as : List α}

lemma listOfRaw?_raw_array (h : (Json.array items).raw.nesting ≤ depth)
    (hread : ∀ d, (∀ v ∈ items, v.raw.nesting ≤ d) → (itemsRaw items).mapM (read d) = some as) :
    listOfRaw? read depth (Json.array items).raw = some as := by
  obtain ⟨d, rfl, hitems⟩ := nesting_array_le_iff.mp h
  exact hread d hitems

/-- A list is read back if its items are. -/
lemma listOfRaw?_raw_map (h : (Json.array (as.map toJson)).raw.nesting ≤ depth)
    (hread : ∀ d, ∀ a ∈ as, (toJson a).raw.nesting ≤ d → read d (toJson a).raw = some a) :
    listOfRaw? read depth (Json.array (as.map toJson)).raw = some as :=
  listOfRaw?_raw_array read h fun d hd =>
    mapM_itemsRaw_map fun a ha => hread d a ha (hd _ (List.mem_map_of_mem ha))

/-- Rows are read back if the items of each row are. -/
lemma rowsOfRaw?_raw_map {rows : List (List α)}
    (h : (Json.array (rows.map fun row => Json.array (toJsons row))).raw.nesting ≤ depth)
    (hread : ∀ d, ∀ row ∈ rows, (∀ v ∈ toJsons row, v.raw.nesting ≤ d) →
      (itemsRaw (toJsons row)).mapM (read d) = some row) :
    rowsOfRaw? read depth (Json.array (rows.map fun row => Json.array (toJsons row))).raw =
      some rows :=
  listOfRaw?_raw_map (listOfRaw? read) h fun _ row hrow hnesting =>
    listOfRaw?_raw_array read hnesting fun d hd => hread d row hrow hd

end Lists

/-! ### Parts of relations -/

lemma LockMode.ofRaw?_toJson (lock : LockMode) : ofRaw? depth lock.toJson.raw = some lock := by
  cases lock <;> rfl

lemma JoinKind.ofRaw?_toJson (kind : JoinKind) : ofRaw? depth kind.toJson.raw = some kind := by
  cases kind <;> rfl

lemma SetOperator.ofRaw?_toJson (op : SetOperator) : ofRaw? depth op.toJson.raw = some op := by
  cases op <;> rfl

lemma SortDirection.ofRaw?_toJson (d : SortDirection) : ofRaw? depth d.toJson.raw = some d := by
  cases d <;> rfl

lemma NullPlacement.ofRaw?_toJson (p : NullPlacement) : ofRaw? depth p.toJson.raw = some p := by
  cases p <;> rfl

lemma Column.ofRaw?_toJson (c : Column) (h : c.toJson.raw.nesting ≤ depth) :
    ofRaw? depth c.toJson.raw = some c := by
  obtain ⟨d, rfl, hfields⟩ := nesting_object_le_iff.mp h
  have htype := c.type.ofRaw?_toJson (hfields ("type", c.type.toJson) (by simp))
  rw [toJson, ofRaw?]
  simp [fields?_raw_object, text?_raw_string, htype]

/-- A table is read back by the names of its fields, which differ. -/
lemma TableInfo.ofRaw?_toJson (t : TableInfo) (h : t.toJson.raw.nesting ≤ depth) :
    ofRaw? depth t.toJson.raw = some t := by
  obtain ⟨d, rfl, hfields⟩ := nesting_object_le_iff.mp h
  obtain ⟨d, rfl, hcolumns⟩ := nesting_array_le_iff.mp
    (hfields ("columns", .array (t.columns.map Column.toJson)) (by simp))
  have hread : (itemsRaw (t.columns.map Column.toJson)).mapM (Column.ofRaw? d) = some t.columns :=
    mapM_itemsRaw_map fun c hc => c.ofRaw?_toJson (hcolumns _ (List.mem_map_of_mem hc))
  rw [toJson, ofRaw?]
  simp [fields?_raw_object, text?_raw_string, items?_raw_array, hread]

lemma TargetName.ofRaw?_toJson (t : TargetName) (h : t.toJson.raw.nesting ≤ depth) :
    ofRaw? depth t.toJson.raw = some t := by
  obtain ⟨d, rfl, -⟩ := nesting_object_le_iff.mp h
  have hschema : optional? text? (some (jsonOption .string t.schema).raw) = some t.schema := by
    cases t.schema <;> rfl
  rw [toJson, ofRaw?]
  simp [fields?_raw_object, hschema, text?_raw_string]

lemma parameterOfRaw?_parameterToJson {p : String × Value} (hp : p.2.FloatFree)
    (h : (parameterToJson p).raw.nesting ≤ depth) :
    parameterOfRaw? depth (parameterToJson p).raw = some p := by
  obtain ⟨name, v⟩ := p
  obtain ⟨d, rfl, hitems⟩ := nesting_array_le_iff.mp h
  have hv := v.ofRaw?_toJson hp (hitems v.toJson (by simp))
  rw [parameterToJson, parameterOfRaw?]
  simp [items?_raw_array, itemsRaw, text?_raw_string, hv]

def SortKey.Readable (k : SortKey) : Prop := k.expr.Readable

lemma SortKey.ofRaw?_toJson {k : SortKey} (hk : k.Readable) (h : k.toJson.raw.nesting ≤ depth) :
    ofRaw? depth k.toJson.raw = some k := by
  obtain ⟨d, rfl, hfields⟩ := nesting_object_le_iff.mp h
  have hexpr := k.expr.ofRaw?_toJson hk (hfields ("expr", k.expr.toJson) (by simp))
  rw [toJson, ofRaw?]
  simp [fields?_raw_object, SortDirection.ofRaw?_toJson, NullPlacement.ofRaw?_toJson, hexpr]

def InlineRows.Readable : InlineRows → Prop
  | constants rows => ∀ row ∈ rows, ∀ v ∈ row, v.FloatFree
  | expressions rows => ∀ row ∈ rows, ∀ e ∈ row, e.Readable

/-- The rows of an inline table are read back, as the two kinds of them have different tags. -/
lemma InlineRows.ofRaw?_toJson {rows : InlineRows} (hrows : rows.Readable)
    (h : rows.toJson.raw.nesting ≤ depth) : ofRaw? depth rows.toJson.raw = some rows := by
  cases rows with
  | constants rows =>
    obtain ⟨d, rfl, hargument⟩ := nesting_tagged_le_iff.mp h
    have hread := rowsOfRaw?_raw_map Value.ofRaw? hargument fun d row hrow hd =>
      Value.mapM_listToJson row (Value.allFloatFree_iff.mpr (hrows row hrow)) hd
    rw [toJson, ofRaw?, choice?_tagged]
    simp [hread]
  | expressions rows =>
    obtain ⟨d, rfl, hargument⟩ := nesting_tagged_le_iff.mp h
    have hread := rowsOfRaw?_raw_map Expr.ofRaw? hargument fun d row hrow hd =>
      Expr.mapM_listToJson row (Expr.allReadable_iff.mpr (hrows row hrow)) hd
    rw [toJson, ofRaw?, choice?_tagged]
    simp [hread]

/-! ### Relations -/

mutual

/-- There is no floating point number among the constants of a relation, and the positions of
columns fit into 64 bits. -/
def Relation.Readable : Relation → Prop
  | .table .. => True
  | .view .. => True
  | .tableFunction _ parameters named _ =>
    (∀ v ∈ parameters, v.FloatFree) ∧ ∀ p ∈ named, p.2.FloatFree
  | .inline rows _ => rows.Readable
  | .aliased _ input => input.Readable
  | .filter input condition => input.Readable ∧ condition.Readable
  | .project input expressions _ => input.Readable ∧ ∀ e ∈ expressions, e.Readable
  | .aggregate input expressions groups =>
    input.Readable ∧ (∀ e ∈ expressions, e.Readable) ∧ ∀ e ∈ groups, e.Readable
  | .join left right condition _ => left.Readable ∧ right.Readable ∧ condition.Readable
  | .product left right => left.Readable ∧ right.Readable
  | .limit input _ _ => input.Readable
  | .sort input keys => input.Readable ∧ ∀ k ∈ keys, k.Readable
  | .setOperation left right _ => left.Readable ∧ right.Readable
  | .write _ effect => effect.Readable

def WriteEffect.Readable : WriteEffect → Prop
  | .createTableAs input => input.Readable
  | .insert input => input.Readable
  | .delete condition => condition.Readable

end

lemma listOfRaw?_raw_values {vs : List Value} (hvs : Value.AllFloatFree vs)
    (h : (Json.array (Value.listToJson vs)).raw.nesting ≤ depth) :
    listOfRaw? Value.ofRaw? depth (Json.array (Value.listToJson vs)).raw = some vs :=
  listOfRaw?_raw_array Value.ofRaw? h fun _ hd => Value.mapM_listToJson vs hvs hd

lemma listOfRaw?_raw_exprs {es : List Expr} (hes : Expr.AllReadable es)
    (h : (Json.array (Expr.listToJson es)).raw.nesting ≤ depth) :
    listOfRaw? Expr.ofRaw? depth (Json.array (Expr.listToJson es)).raw = some es :=
  listOfRaw?_raw_array Expr.ofRaw? h fun _ hd => Expr.mapM_listToJson es hes hd

lemma optional?_raw_jsonInt {α : Type} {read : Raw → Option α} {n : Int} :
    optional? read (some (jsonInt n).raw) = (read (jsonInt n).raw).map some := rfl

/-- A limit is read back. No limit is written as `null`, which is no number. -/
lemma optional?_raw_limit (limit : Option UInt64) :
    optional? (nat? 64) (some (jsonOption (fun n : UInt64 => jsonInt n.toNat) limit).raw) =
      some (limit.map UInt64.toNat) := by
  cases limit with
  | none => rfl
  | some n =>
    rw [jsonOption, optional?_raw_jsonInt, nat?_raw_uInt64]
    rfl

mutual

/-- A relation is read back. -/
lemma Relation.ofRaw?_toJson {depth : Nat} (r : Relation) (hr : r.Readable)
    (h : r.toJson.raw.nesting ≤ depth) : Relation.ofRaw? depth r.toJson.raw = some r := by
  match r with
  | .table info lock =>
    rw [Relation.toJson] at h
    obtain ⟨d, rfl, hfields⟩ := nesting_tagged_object_le_iff.mp h
    have hinfo := info.ofRaw?_toJson (hfields ("table", info.toJson) (by simp))
    rw [Relation.toJson, Relation.ofRaw?, dif_neg (Nat.succ_ne_zero _), bind_choice?_tagged]
    simp [fields?_raw_object, hinfo, LockMode.ofRaw?_toJson]
  | .view info lock =>
    rw [Relation.toJson] at h
    obtain ⟨d, rfl, hfields⟩ := nesting_tagged_object_le_iff.mp h
    have hinfo := info.ofRaw?_toJson (hfields ("view", info.toJson) (by simp))
    rw [Relation.toJson, Relation.ofRaw?, dif_neg (Nat.succ_ne_zero _), bind_choice?_tagged]
    simp [fields?_raw_object, hinfo, LockMode.ofRaw?_toJson]
  | .tableFunction name parameters named lock =>
    rw [Relation.toJson] at h
    obtain ⟨d, rfl, hfields⟩ := nesting_tagged_object_le_iff.mp h
    have hparameters := listOfRaw?_raw_values (Value.allFloatFree_iff.mpr hr.1)
      (hfields ("parameters", .array (Value.listToJson parameters)) (by simp))
    have hnamed := listOfRaw?_raw_map parameterOfRaw?
      (hfields ("named_parameters", .array (named.map parameterToJson)) (by simp))
      fun d p hp => parameterOfRaw?_parameterToJson (hr.2 p hp)
    rw [Relation.toJson, Relation.ofRaw?, dif_neg (Nat.succ_ne_zero _), bind_choice?_tagged]
    simp [fields?_raw_object, text?_raw_string, hparameters, hnamed, LockMode.ofRaw?_toJson]
  | .inline rows lock =>
    rw [Relation.toJson] at h
    obtain ⟨d, rfl, hfields⟩ := nesting_tagged_object_le_iff.mp h
    have hrows := InlineRows.ofRaw?_toJson hr (hfields ("rows", rows.toJson) (by simp))
    rw [Relation.toJson, Relation.ofRaw?, dif_neg (Nat.succ_ne_zero _), bind_choice?_tagged]
    simp [fields?_raw_object, hrows, LockMode.ofRaw?_toJson]
  | .aliased name input =>
    rw [Relation.toJson] at h
    obtain ⟨d, rfl, hfields⟩ := nesting_tagged_object_le_iff.mp h
    have hinput := Relation.ofRaw?_toJson input hr (hfields ("input", input.toJson) (by simp))
    rw [Relation.toJson, Relation.ofRaw?, dif_neg (Nat.succ_ne_zero _), bind_choice?_tagged]
    simp [fields?_raw_object, text?_raw_string, hinput]
  | .filter input condition =>
    rw [Relation.toJson] at h
    obtain ⟨d, rfl, hfields⟩ := nesting_tagged_object_le_iff.mp h
    have hinput := Relation.ofRaw?_toJson input hr.1 (hfields ("input", input.toJson) (by simp))
    have hcondition := condition.ofRaw?_toJson hr.2
      (hfields ("condition", condition.toJson) (by simp))
    rw [Relation.toJson, Relation.ofRaw?, dif_neg (Nat.succ_ne_zero _), bind_choice?_tagged]
    simp [fields?_raw_object, hinput, hcondition]
  | .project input expressions names =>
    rw [Relation.toJson] at h
    obtain ⟨d, rfl, hfields⟩ := nesting_tagged_object_le_iff.mp h
    have hinput := Relation.ofRaw?_toJson input hr.1 (hfields ("input", input.toJson) (by simp))
    have hexpressions := listOfRaw?_raw_exprs (Expr.allReadable_iff.mpr hr.2)
      (hfields ("expressions", .array (Expr.listToJson expressions)) (by simp))
    have hnames := listOfRaw?_raw_map (fun _ => text?)
      (hfields ("aliases", .array (names.map .string)) (by simp)) fun _ _ _ _ => rfl
    rw [Relation.toJson, Relation.ofRaw?, dif_neg (Nat.succ_ne_zero _), bind_choice?_tagged]
    simp [fields?_raw_object, hinput, hexpressions, hnames]
  | .aggregate input expressions groups =>
    rw [Relation.toJson] at h
    obtain ⟨d, rfl, hfields⟩ := nesting_tagged_object_le_iff.mp h
    have hinput := Relation.ofRaw?_toJson input hr.1 (hfields ("input", input.toJson) (by simp))
    have hexpressions := listOfRaw?_raw_exprs (Expr.allReadable_iff.mpr hr.2.1)
      (hfields ("expressions", .array (Expr.listToJson expressions)) (by simp))
    have hgroups := listOfRaw?_raw_exprs (Expr.allReadable_iff.mpr hr.2.2)
      (hfields ("groups", .array (Expr.listToJson groups)) (by simp))
    rw [Relation.toJson, Relation.ofRaw?, dif_neg (Nat.succ_ne_zero _), bind_choice?_tagged]
    simp [fields?_raw_object, hinput, hexpressions, hgroups]
  | .join left right condition kind =>
    rw [Relation.toJson] at h
    obtain ⟨d, rfl, hfields⟩ := nesting_tagged_object_le_iff.mp h
    have hleft := Relation.ofRaw?_toJson left hr.1 (hfields ("left", left.toJson) (by simp))
    have hright := Relation.ofRaw?_toJson right hr.2.1 (hfields ("right", right.toJson) (by simp))
    have hcondition := condition.ofRaw?_toJson hr.2.2
      (hfields ("condition", condition.toJson) (by simp))
    rw [Relation.toJson, Relation.ofRaw?, dif_neg (Nat.succ_ne_zero _), bind_choice?_tagged]
    simp [fields?_raw_object, hleft, hright, hcondition, JoinKind.ofRaw?_toJson]
  | .product left right =>
    rw [Relation.toJson] at h
    obtain ⟨d, rfl, hfields⟩ := nesting_tagged_object_le_iff.mp h
    have hleft := Relation.ofRaw?_toJson left hr.1 (hfields ("left", left.toJson) (by simp))
    have hright := Relation.ofRaw?_toJson right hr.2 (hfields ("right", right.toJson) (by simp))
    rw [Relation.toJson, Relation.ofRaw?, dif_neg (Nat.succ_ne_zero _), bind_choice?_tagged]
    simp [fields?_raw_object, hleft, hright]
  | .limit input limit offset =>
    rw [Relation.toJson] at h
    obtain ⟨d, rfl, hfields⟩ := nesting_tagged_object_le_iff.mp h
    have hinput := Relation.ofRaw?_toJson input hr (hfields ("input", input.toJson) (by simp))
    rw [Relation.toJson, Relation.ofRaw?, dif_neg (Nat.succ_ne_zero _), bind_choice?_tagged]
    simp -implicitDefEqProofs [fields?_raw_object, hinput, optional?_raw_limit, nat?_raw_uInt64]
    cases limit <;> simp
  | .sort input keys =>
    rw [Relation.toJson] at h
    obtain ⟨d, rfl, hfields⟩ := nesting_tagged_object_le_iff.mp h
    have hinput := Relation.ofRaw?_toJson input hr.1 (hfields ("input", input.toJson) (by simp))
    have hkeys := listOfRaw?_raw_map SortKey.ofRaw?
      (hfields ("orders", .array (keys.map SortKey.toJson)) (by simp))
      fun d k hk => SortKey.ofRaw?_toJson (hr.2 k hk)
    rw [Relation.toJson, Relation.ofRaw?, dif_neg (Nat.succ_ne_zero _), bind_choice?_tagged]
    simp [fields?_raw_object, hinput, hkeys]
  | .setOperation left right op =>
    rw [Relation.toJson] at h
    obtain ⟨d, rfl, hfields⟩ := nesting_tagged_object_le_iff.mp h
    have hleft := Relation.ofRaw?_toJson left hr.1 (hfields ("left", left.toJson) (by simp))
    have hright := Relation.ofRaw?_toJson right hr.2 (hfields ("right", right.toJson) (by simp))
    rw [Relation.toJson, Relation.ofRaw?, dif_neg (Nat.succ_ne_zero _), bind_choice?_tagged]
    simp [fields?_raw_object, hleft, hright, SetOperator.ofRaw?_toJson]
  | .write target effect =>
    rw [Relation.toJson] at h
    obtain ⟨d, rfl, hfields⟩ := nesting_tagged_object_le_iff.mp h
    have htarget := target.ofRaw?_toJson (hfields ("target", target.toJson) (by simp))
    have heffect := WriteEffect.ofRaw?_toJson effect hr
      (hfields ("action", effect.toJson) (by simp))
    rw [Relation.toJson, Relation.ofRaw?, dif_neg (Nat.succ_ne_zero _), bind_choice?_tagged]
    simp [fields?_raw_object, htarget, heffect]

/-- What a write does is read back. -/
lemma WriteEffect.ofRaw?_toJson {depth : Nat} (effect : WriteEffect) (he : effect.Readable)
    (h : effect.toJson.raw.nesting ≤ depth) :
    WriteEffect.ofRaw? depth effect.toJson.raw = some effect := by
  match effect with
  | .createTableAs input =>
    rw [WriteEffect.toJson] at h
    obtain ⟨d, rfl, hinput⟩ := nesting_tagged_le_iff.mp h
    rw [WriteEffect.toJson, WriteEffect.ofRaw?, dif_neg (Nat.succ_ne_zero _), bind_choice?_tagged]
    simp [Relation.ofRaw?_toJson input he hinput]
  | .insert input =>
    rw [WriteEffect.toJson] at h
    obtain ⟨d, rfl, hinput⟩ := nesting_tagged_le_iff.mp h
    rw [WriteEffect.toJson, WriteEffect.ofRaw?, dif_neg (Nat.succ_ne_zero _), bind_choice?_tagged]
    simp [Relation.ofRaw?_toJson input he hinput]
  | .delete condition =>
    rw [WriteEffect.toJson] at h
    obtain ⟨d, rfl, hfields⟩ := nesting_tagged_object_le_iff.mp h
    have hcondition := condition.ofRaw?_toJson he
      (hfields ("condition", condition.toJson) (by simp))
    rw [WriteEffect.toJson, WriteEffect.ofRaw?, dif_neg (Nat.succ_ne_zero _), bind_choice?_tagged]
    simp [fields?_raw_object, hcondition]

end

/-! ### Texts of relations -/

lemma LockMode.floatFree_toJson (lock : LockMode) : lock.toJson.FloatFree := by
  cases lock <;> trivial

lemma TableInfo.floatFree_toJson (t : TableInfo) : t.toJson.FloatFree := by
  simp [toJson, Json.FloatFree, Column.toJson, SqlType.floatFree_toJson]

lemma SortKey.floatFree_toJson {k : SortKey} (hk : k.Readable) : k.toJson.FloatFree := by
  have hexpr := k.expr.floatFree_toJson hk
  cases hd : k.direction <;> cases hn : k.nulls <;>
    simp [toJson, hd, hn, SortDirection.toJson, NullPlacement.toJson, Json.FloatFree, hexpr]

lemma InlineRows.floatFree_toJson {rows : InlineRows} (hrows : rows.Readable) :
    rows.toJson.FloatFree := by
  cases rows with
  | constants rows =>
    simp only [toJson, tagged, Json.FloatFree, membersFloatFree_iff, List.mem_singleton, forall_eq,
      itemsFloatFree_iff, List.forall_mem_map]
    exact fun row hrow =>
      Value.floatFree_listToJson row (Value.allFloatFree_iff.mpr (hrows row hrow))
  | expressions rows =>
    simp only [toJson, tagged, Json.FloatFree, membersFloatFree_iff, List.mem_singleton, forall_eq,
      itemsFloatFree_iff, List.forall_mem_map]
    exact fun row hrow => Expr.floatFree_listToJson row (Expr.allReadable_iff.mpr (hrows row hrow))

mutual

/-- The numbers of a relation itself are integers. -/
lemma Relation.floatFree_toJson (r : Relation) (hr : r.Readable) : r.toJson.FloatFree := by
  match r with
  | .table info lock | .view info lock =>
    simp [Relation.toJson, tagged, Json.FloatFree, info.floatFree_toJson, lock.floatFree_toJson]
  | .tableFunction name parameters named lock =>
    have hparameters :=
      Value.floatFree_listToJson parameters (Value.allFloatFree_iff.mpr hr.1)
    have hnamed : ∀ p ∈ named, (parameterToJson p).FloatFree := fun p hp => by
      simp [parameterToJson, Json.FloatFree, p.2.floatFree_toJson (hr.2 p hp)]
    simpa [Relation.toJson, tagged, Json.FloatFree, lock.floatFree_toJson] using
      And.intro hparameters fun _ name v hp heq => heq ▸ hnamed (name, v) hp
  | .inline rows lock =>
    simp [Relation.toJson, tagged, Json.FloatFree, InlineRows.floatFree_toJson hr,
      lock.floatFree_toJson]
  | .aliased name input =>
    simp [Relation.toJson, tagged, Json.FloatFree, Relation.floatFree_toJson input hr]
  | .filter input condition =>
    simp [Relation.toJson, tagged, Json.FloatFree, Relation.floatFree_toJson input hr.1,
      condition.floatFree_toJson hr.2]
  | .project input expressions names =>
    simpa [Relation.toJson, tagged, Json.FloatFree, Relation.floatFree_toJson input hr.1] using
      Expr.floatFree_listToJson expressions (Expr.allReadable_iff.mpr hr.2)
  | .aggregate input expressions groups =>
    simpa [Relation.toJson, tagged, Json.FloatFree, Relation.floatFree_toJson input hr.1] using
      And.intro (Expr.floatFree_listToJson expressions (Expr.allReadable_iff.mpr hr.2.1))
        (Expr.floatFree_listToJson groups (Expr.allReadable_iff.mpr hr.2.2))
  | .join left right condition kind =>
    simp [Relation.toJson, tagged, Json.FloatFree, Relation.floatFree_toJson left hr.1,
      Relation.floatFree_toJson right hr.2.1, condition.floatFree_toJson hr.2.2, JoinKind.toJson]
  | .product left right =>
    simp [Relation.toJson, tagged, Json.FloatFree, Relation.floatFree_toJson left hr.1,
      Relation.floatFree_toJson right hr.2]
  | .limit input limit offset =>
    cases limit <;>
      simp [Relation.toJson, tagged, Json.FloatFree, Relation.floatFree_toJson input hr, jsonOption,
        jsonInt]
  | .sort input keys =>
    simpa [Relation.toJson, tagged, Json.FloatFree, Relation.floatFree_toJson input hr.1] using
      fun k hk => SortKey.floatFree_toJson (hr.2 k hk)
  | .setOperation left right op =>
    simp [Relation.toJson, tagged, Json.FloatFree, Relation.floatFree_toJson left hr.1,
      Relation.floatFree_toJson right hr.2, SetOperator.toJson]
  | .write target effect =>
    cases hschema : target.schema <;>
      simp [Relation.toJson, tagged, Json.FloatFree, TargetName.toJson, hschema, jsonOption,
        WriteEffect.floatFree_toJson effect hr]

lemma WriteEffect.floatFree_toJson (effect : WriteEffect) (he : effect.Readable) :
    effect.toJson.FloatFree := by
  match effect with
  | .createTableAs input =>
    simp [WriteEffect.toJson, tagged, Json.FloatFree, Relation.floatFree_toJson input he]
  | .insert input =>
    simp [WriteEffect.toJson, tagged, Json.FloatFree, Relation.floatFree_toJson input he]
  | .delete condition =>
    simp [WriteEffect.toJson, tagged, Json.FloatFree, condition.floatFree_toJson he]

end

open Service in
/-- What is answered for a relation has the text of the relation in it, and this text is read back
as the relation. -/
theorem Relation.read?_render (r : Relation) (hr : r.Readable)
    (h : (Raw.ofText r.toJson.render).1.nesting ≤ maxDepth) :
    (Response.ofLowering (.ok r)).body = "\x7b\"relation\":" ++ r.toJson.render ++
        ",\"explain\":" ++ (Json.string r.explain).render ++ "\x7d" ∧
      Raw.read? r.toJson.render Relation.ofRaw? = some r := by
  have htext := Raw.ofText_render r.toJson (r.floatFree_toJson hr)
  constructor
  · simp [Response.ofLowering, Response.ok, ← String.toList_inj, render, chars, membersChars]
    rfl
  · rw [htext] at h
    rw [Raw.read?, htext]
    exact r.ofRaw?_toJson hr h

/-- A relation with texts and numbers that are hard to write. -/
def escapes : Relation :=
  .write ⟨some "a\"b\\c", ""⟩ (.insert (.limit
    (.project
      (.inline (.constants [[.varchar "\n\u0001é𝄞",
        .decimal (.int128 ⟨-0x80000000000000000000000000000000, by decide, by decide⟩) 38 2,
        .null]]) .external)
      [.case [(.column 1, .list [])] (.struct [("\t", .constant (.list [.tinyInt (-128)]))])]
      ["/"])
    (some 0xffffffffffffffff) 0))

theorem Relation.read?_render_escapes :
    escapes.Readable ∧ (Raw.ofText escapes.toJson.render).1.nesting ≤ maxDepth ∧
      Raw.read? escapes.toJson.render Relation.ofRaw? = some escapes := by
  have hr : escapes.Readable := by
    simp [escapes, Readable, WriteEffect.Readable, InlineRows.Readable, Value.FloatFree,
      Expr.Readable, Expr.ArmsReadable, Expr.FieldsReadable]
  have hnesting : (Raw.ofText escapes.toJson.render).1.nesting ≤ maxDepth := by
    rw [Raw.ofText_render _ (escapes.floatFree_toJson hr)]
    decide
  exact ⟨hr, hnesting, (read?_render escapes hr hnesting).2⟩

end PlanImport.Engine
