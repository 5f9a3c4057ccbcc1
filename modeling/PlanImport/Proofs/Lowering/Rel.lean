import PlanImport.Lowering.Rel
import PlanImport.Proofs.Lowering.Read

/-!
# When a relation is lowered

For each kind of relation, what it takes for its lowering to end with a value, and which value
that is. The parts are lowered one after the other, each from the number at which the one before
it has stopped.
-/

namespace PlanImport

open Engine Plan
open Lowering

namespace LoweringContext

variable {c : LoweringContext} {names : Option (List String)} {n k : Nat} {r : Relation}

attribute [local simp] lowerRel lowerInput

lemma lowerInput_eq_ok {field : String} {input : Option Rel} :
    (c.lowerInput field input names).runFrom n = (.ok r, k) ↔
      ∃ rel, input = some rel ∧ (c.lowerRel rel names).runFrom n = (.ok r, k) := by
  cases input with
  | none => simp
  | some rel => simp

/-- The input of a filter is numbered before the condition is lowered. -/
lemma lowerRel_filter_eq_ok {input : Option Rel} {condition : Option Expression} :
    (c.lowerRel (.filter input condition) names).runFrom n = (.ok r, k) ↔
      ∃ source e, (c.lowerInput "filter.input" input none).runFrom n = (.ok source, k) ∧
        lowerRequired c.functions "filter.condition" condition = .ok e ∧
        r = .filter source e := by
  rw [lowerRel, runFrom_bind_bind_pure_eq_ok]
  simp only [runFrom_lift, Prod.mk.injEq]
  constructor
  · rintro ⟨source, e, j, hs, ⟨he, rfl⟩, hr⟩
    exact ⟨source, e, hs, he, hr⟩
  · rintro ⟨source, e, hs, he, hr⟩
    exact ⟨source, e, k, hs, ⟨he, rfl⟩, hr⟩

/-- The keys and the measures are lowered before the input is numbered. -/
lemma lowerRel_aggregate_eq_ok {input : Option Rel} {groupings : List (List Expression)}
    {measures : List (Option AggregateFunction)} :
    (c.lowerRel (.aggregate input groupings measures) names).runFrom n = (.ok r, k) ↔
      ∃ groups calls source, c.lowerGroups groupings = .ok groups ∧
        measures.mapM c.lowerMeasure = .ok calls ∧
        (c.lowerInput "aggregate.input" input none).runFrom n = (.ok source, k) ∧
        r = .aggregate source (groups ++ calls) groups := by
  rw [lowerRel, runFrom_lift_bind_eq_ok]
  simp only [runFrom_lift_bind_eq_ok, runFrom_bind_pure_eq_ok, exists_and_left]

/-- A join has its inputs under the names of the left and the right one. -/
lemma lowerRel_join_eq_ok {left right : Option Rel} {condition : Option Expression}
    {type : Int32} :
    (c.lowerRel (.join left right condition type) names).runFrom n = (.ok r, k) ↔
      ∃ kind e source source' j, joinKind type = .ok kind ∧
        lowerRequired c.functions "join.expression" condition = .ok e ∧
        (c.lowerInput "join.left" left none).runFrom n = (.ok source, j) ∧
        (c.lowerInput "join.right" right none).runFrom j = (.ok source', k) ∧
        r = .join (.aliased "left" source) (.aliased "right" source') e kind := by
  rw [lowerRel, runFrom_lift_bind_eq_ok]
  simp only [runFrom_lift_bind_eq_ok, runFrom_bind_bind_pure_eq_ok, exists_and_left]

lemma lowerRel_cross_eq_ok {left right : Option Rel} :
    (c.lowerRel (.cross left right) names).runFrom n = (.ok r, k) ↔
      ∃ source source' j,
        (c.lowerInput "cross.left" left none).runFrom n = (.ok source, j) ∧
        (c.lowerInput "cross.right" right none).runFrom j = (.ok source', k) ∧
        r = .product (.aliased "left" source) (.aliased "right" source') := by
  rw [lowerRel, runFrom_bind_bind_pure_eq_ok]

/-- A fetch is bounded if neither its offset nor its count is negative, but for a count of -1. -/
lemma fetchBounds_eq_ok {offset count : Int64} {bounds : Option UInt64 × UInt64} :
    fetchBounds offset count = .ok bounds ↔ 0 ≤ offset ∧ (count = -1 ∨ 0 ≤ count) ∧
      bounds = (if count = -1 then none else some count.toUInt64, offset.toUInt64) := by
  have hcount : (count ≠ -1 ∧ count < 0) ↔ ¬ (count = -1 ∨ 0 ≤ count) := by
    rw [not_or, Int64.not_le]
  unfold fetchBounds
  rw [if_congr hcount rfl rfl]
  by_cases hc : count = -1 ∨ 0 ≤ count
  · by_cases ho : offset < 0
    · simp [hc, ho, Int64.not_le.mpr ho]
    · simp [hc, ho, Int64.not_lt.mp ho, eq_comm]
  · simp [hc]

lemma lowerRel_fetch_eq_ok {input : Option Rel} {offset count : Int64} :
    (c.lowerRel (.fetch input offset count) names).runFrom n = (.ok r, k) ↔
      ∃ bounds source, fetchBounds offset count = .ok bounds ∧
        (c.lowerInput "fetch.input" input names).runFrom n = (.ok source, k) ∧
        r = .limit source bounds.1 bounds.2 := by
  rw [lowerRel, runFrom_lift_bind_eq_ok]
  simp only [runFrom_bind_pure_eq_ok, exists_and_left]

/-- A sort key has a direction and an expression. -/
lemma lowerSortField_eq_ok {f : SortField} {key : SortKey} :
    c.lowerSortField f = .ok key ↔ ∃ number, f.kind = .direction number ∧
      sortDirection number = .ok (key.direction, key.nulls) ∧
      lowerRequired c.functions "sort_field.expr" f.expr = .ok key.expr := by
  obtain ⟨expr, kind⟩ := f
  obtain ⟨direction, nulls, e⟩ := key
  unfold lowerSortField
  cases kind with
  | unset | comparisonFunction => simp [bind, Except.bind]
  | direction number =>
    simp only [bind_eq_ok, pure, Except.pure, Except.ok.injEq, SortKey.mk.injEq,
      SortKind.direction.injEq, exists_eq_left', Prod.exists]
    constructor
    · rintro ⟨direction', nulls', hdirection, e', he, rfl, rfl, rfl⟩
      exact ⟨hdirection, he⟩
    · rintro ⟨hdirection, he⟩
      exact ⟨_, _, hdirection, _, he, rfl, rfl, rfl⟩

lemma lowerRel_sort_eq_ok {input : Option Rel} {sorts : List SortField} :
    (c.lowerRel (.sort input sorts) names).runFrom n = (.ok r, k) ↔
      ∃ keys source, sorts.mapM c.lowerSortField = .ok keys ∧
        (c.lowerInput "sort.input" input names).runFrom n = (.ok source, k) ∧
        r = .sort source keys := by
  rw [lowerRel, runFrom_lift_bind_eq_ok]
  simp only [runFrom_bind_pure_eq_ok, exists_and_left]

lemma lowerRel_project_eq_ok {input : Option Rel} {expressions : List Expression} :
    (c.lowerRel (.project input expressions) names).runFrom n = (.ok r, k) ↔
      ∃ columns source, c.lowerProjected names expressions = .ok columns ∧
        (c.lowerInput "project.input" input none).runFrom n = (.ok source, k) ∧
        r = .project source columns (placeholderNames columns.length) := by
  rw [lowerRel, runFrom_lift_bind_eq_ok]
  simp only [runFrom_bind_pure_eq_ok, exists_and_left]

/-- The names of the columns go to the right input only. -/
lemma lowerRel_set_eq_ok {left right : Rel} {op : Int32} :
    (c.lowerRel (.set [left, right] op) names).runFrom n = (.ok r, k) ↔
      ∃ operator source source' j, setOperator op = .ok operator ∧
        (c.lowerRel left none).runFrom n = (.ok source, j) ∧
        (c.lowerRel right names).runFrom j = (.ok source', k) ∧
        r = .setOperation source source' operator := by
  rw [lowerRel, runFrom_lift_bind_eq_ok]
  simp only [runFrom_bind_bind_pure_eq_ok, exists_and_left]

/-- Only set operations of two inputs are lowered. -/
lemma eq_pair_of_lowerRel_set {inputs : List Rel} {op : Int32}
    (h : (c.lowerRel (.set inputs op) names).runFrom n = (.ok r, k)) :
    ∃ left right, inputs = [left, right] := by
  rw [lowerRel, runFrom_lift_bind_eq_ok] at h
  obtain ⟨operator, -, h⟩ := h
  rcases inputs with _ | ⟨left, _ | ⟨right, _ | ⟨third, rest⟩⟩⟩
  · cases h
  · cases h
  · exact ⟨left, right, rfl⟩
  · cases h

/-- A write looks at its target first, then at its input and at last at what it does with it. -/
lemma lowerRel_write_eq_ok {target : WriteTarget} {op : Int32} {input : Option Rel} :
    (c.lowerRel (.write target op input) names).runFrom n = (.ok r, k) ↔
      ∃ name source effect, target.name = .ok name ∧
        (c.lowerInput "write.input" input none).runFrom n = (.ok source, k) ∧
        writeEffect op source = .ok effect ∧ r = .write name effect := by
  rw [lowerRel, runFrom_lift_bind_eq_ok]
  constructor
  · rintro ⟨name, hname, h⟩
    rw [runFrom_bind_eq_ok] at h
    obtain ⟨source, j, hs, h⟩ := h
    rw [runFrom_lift_bind_eq_ok] at h
    obtain ⟨effect, he, hr⟩ := h
    cases hr
    exact ⟨name, source, effect, hname, hs, he, rfl⟩
  · rintro ⟨name, source, effect, hname, hs, he, rfl⟩
    exact ⟨name, hname, runFrom_bind_eq_ok.mpr
      ⟨source, k, hs, runFrom_lift_bind_eq_ok.mpr ⟨effect, he, rfl⟩⟩⟩

/-! ### How a relation is lowered -/

/-- A relation of a plan is lowered to one of the engine, with the names of its output columns if
they are known. The numbers are those of the next scan before and after. -/
inductive Lowers (c : LoweringContext) :
    Rel → Option (List String) → Nat → Relation → Nat → Prop
  | read {read : Read} {names : Option (List String)} {n k : Nat} {r : Relation}
    (h : (c.lowerRead read).runFrom n = (.ok r, k)) : Lowers c (.read read) names n r k
  | filter {input : Rel} {condition : Option Expression} {names : Option (List String)}
    {n k : Nat} {source : Relation} {e : Expr} (hinput : Lowers c input none n source k)
    (he : lowerRequired c.functions "filter.condition" condition = .ok e) :
    Lowers c (.filter (some input) condition) names n (.filter source e) k
  | fetch {input : Rel} {offset count : Int64} {names : Option (List String)} {n k : Nat}
    {source : Relation} {bounds : Option UInt64 × UInt64}
    (hbounds : fetchBounds offset count = .ok bounds) (hinput : Lowers c input names n source k) :
    Lowers c (.fetch (some input) offset count) names n (.limit source bounds.1 bounds.2) k
  | aggregate {input : Rel} {groupings : List (List Expression)}
    {measures : List (Option AggregateFunction)} {names : Option (List String)} {n k : Nat}
    {source : Relation} {groups calls : List Expr} (hgroups : c.lowerGroups groupings = .ok groups)
    (hcalls : measures.mapM c.lowerMeasure = .ok calls) (hinput : Lowers c input none n source k) :
    Lowers c (.aggregate (some input) groupings measures) names n
      (.aggregate source (groups ++ calls) groups) k
  | sort {input : Rel} {sorts : List SortField} {names : Option (List String)} {n k : Nat}
    {source : Relation} {keys : List SortKey} (hkeys : sorts.mapM c.lowerSortField = .ok keys)
    (hinput : Lowers c input names n source k) :
    Lowers c (.sort (some input) sorts) names n (.sort source keys) k
  | join {left right : Rel} {condition : Option Expression} {type : Int32}
    {names : Option (List String)} {n j k : Nat} {source source' : Relation} {e : Expr}
    {kind : JoinKind} (hkind : joinKind type = .ok kind)
    (he : lowerRequired c.functions "join.expression" condition = .ok e)
    (hleft : Lowers c left none n source j) (hright : Lowers c right none j source' k) :
    Lowers c (.join (some left) (some right) condition type) names n
      (.join (.aliased "left" source) (.aliased "right" source') e kind) k
  | cross {left right : Rel} {names : Option (List String)} {n j k : Nat}
    {source source' : Relation} (hleft : Lowers c left none n source j)
    (hright : Lowers c right none j source' k) :
    Lowers c (.cross (some left) (some right)) names n
      (.product (.aliased "left" source) (.aliased "right" source')) k
  | project {input : Rel} {expressions : List Expression} {names : Option (List String)}
    {n k : Nat} {source : Relation} {columns : List Expr}
    (hcolumns : c.lowerProjected names expressions = .ok columns)
    (hinput : Lowers c input none n source k) :
    Lowers c (.project (some input) expressions) names n
      (.project source columns (placeholderNames columns.length)) k
  | set {left right : Rel} {op : Int32} {names : Option (List String)} {n j k : Nat}
    {source source' : Relation} {operator : SetOperator} (hop : setOperator op = .ok operator)
    (hleft : Lowers c left none n source j) (hright : Lowers c right names j source' k) :
    Lowers c (.set [left, right] op) names n (.setOperation source source' operator) k
  | write {input : Rel} {target : WriteTarget} {op : Int32} {names : Option (List String)}
    {n k : Nat} {source : Relation} {name : TargetName} {effect : WriteEffect}
    (hname : target.name = .ok name) (hinput : Lowers c input none n source k)
    (heffect : writeEffect op source = .ok effect) :
    Lowers c (.write target op (some input)) names n (.write name effect) k

/-- Each rule is what the lowering does with a relation of its kind. -/
lemma Lowers.lowerRel_eq_ok {rel : Rel} (h : Lowers c rel names n r k) :
    (c.lowerRel rel names).runFrom n = (.ok r, k) := by
  induction h with
  | read h =>
    rw [lowerRel]
    exact h
  | filter _ he ih => exact lowerRel_filter_eq_ok.mpr ⟨_, _, ih, he, rfl⟩
  | fetch hbounds _ ih => exact lowerRel_fetch_eq_ok.mpr ⟨_, _, hbounds, ih, rfl⟩
  | aggregate hgroups hcalls _ ih =>
    exact lowerRel_aggregate_eq_ok.mpr ⟨_, _, _, hgroups, hcalls, ih, rfl⟩
  | sort hkeys _ ih => exact lowerRel_sort_eq_ok.mpr ⟨_, _, hkeys, ih, rfl⟩
  | join hkind he _ _ ih ih' =>
    exact lowerRel_join_eq_ok.mpr ⟨_, _, _, _, _, hkind, he, ih, ih', rfl⟩
  | cross _ _ ih ih' => exact lowerRel_cross_eq_ok.mpr ⟨_, _, _, ih, ih', rfl⟩
  | project hcolumns _ ih => exact lowerRel_project_eq_ok.mpr ⟨_, _, hcolumns, ih, rfl⟩
  | set hop _ _ ih ih' => exact lowerRel_set_eq_ok.mpr ⟨_, _, _, _, hop, ih, ih', rfl⟩
  | write hname _ heffect ih => exact lowerRel_write_eq_ok.mpr ⟨_, _, _, hname, ih, heffect, rfl⟩

/-- Every run of a lowering that ends with a relation is one of these, so what each of them keeps is
kept by all runs. -/
lemma lowers_of_lowerRel (rel : Rel) (names : Option (List String)) {n k : Nat} {r : Relation}
    (h : (c.lowerRel rel names).runFrom n = (.ok r, k)) : Lowers c rel names n r k := by
  match rel with
  | .unset | .other kind => cases h
  | .read read =>
    rw [lowerRel] at h
    exact .read h
  | .filter input condition =>
    obtain ⟨source, e, hs, he, rfl⟩ := lowerRel_filter_eq_ok.mp h
    obtain ⟨rel, rfl, hs⟩ := lowerInput_eq_ok.mp hs
    exact .filter (lowers_of_lowerRel rel none hs) he
  | .fetch input offset count =>
    obtain ⟨bounds, source, hbounds, hs, rfl⟩ := lowerRel_fetch_eq_ok.mp h
    obtain ⟨rel, rfl, hs⟩ := lowerInput_eq_ok.mp hs
    exact .fetch hbounds (lowers_of_lowerRel rel names hs)
  | .aggregate input groupings measures =>
    obtain ⟨groups, calls, source, hgroups, hcalls, hs, rfl⟩ := lowerRel_aggregate_eq_ok.mp h
    obtain ⟨rel, rfl, hs⟩ := lowerInput_eq_ok.mp hs
    exact .aggregate hgroups hcalls (lowers_of_lowerRel rel none hs)
  | .sort input sorts =>
    obtain ⟨keys, source, hkeys, hs, rfl⟩ := lowerRel_sort_eq_ok.mp h
    obtain ⟨rel, rfl, hs⟩ := lowerInput_eq_ok.mp hs
    exact .sort hkeys (lowers_of_lowerRel rel names hs)
  | .join left right condition type =>
    obtain ⟨kind, e, source, source', j, hkind, he, hs, hs', rfl⟩ := lowerRel_join_eq_ok.mp h
    obtain ⟨left, rfl, hs⟩ := lowerInput_eq_ok.mp hs
    obtain ⟨right, rfl, hs'⟩ := lowerInput_eq_ok.mp hs'
    exact .join hkind he (lowers_of_lowerRel left none hs) (lowers_of_lowerRel right none hs')
  | .cross left right =>
    obtain ⟨source, source', j, hs, hs', rfl⟩ := lowerRel_cross_eq_ok.mp h
    obtain ⟨left, rfl, hs⟩ := lowerInput_eq_ok.mp hs
    obtain ⟨right, rfl, hs'⟩ := lowerInput_eq_ok.mp hs'
    exact .cross (lowers_of_lowerRel left none hs) (lowers_of_lowerRel right none hs')
  | .project input expressions =>
    obtain ⟨columns, source, hcolumns, hs, rfl⟩ := lowerRel_project_eq_ok.mp h
    obtain ⟨rel, rfl, hs⟩ := lowerInput_eq_ok.mp hs
    exact .project hcolumns (lowers_of_lowerRel rel none hs)
  | .set inputs op =>
    obtain ⟨left, right, rfl⟩ := eq_pair_of_lowerRel_set h
    obtain ⟨operator, source, source', j, hop, hs, hs', rfl⟩ := lowerRel_set_eq_ok.mp h
    exact .set hop (lowers_of_lowerRel left none hs) (lowers_of_lowerRel right names hs')
  | .write target op input =>
    obtain ⟨name, source, effect, hname, hs, heffect, rfl⟩ := lowerRel_write_eq_ok.mp h
    obtain ⟨rel, rfl, hs⟩ := lowerInput_eq_ok.mp hs
    exact .write hname (lowers_of_lowerRel rel none hs) heffect
termination_by rel

/-! ### Operators -/

end LoweringContext

/-- The names of the operators that relations of each kind are lowered to. -/
def Plan.Rel.operators : Rel → List String
  | .read _ => ["Table", "View", "Values", "Alias", "Filter", "Project"]
  | .filter .. => ["Filter"]
  | .fetch .. => ["Limit"]
  | .aggregate .. => ["Aggregate"]
  | .sort .. => ["Order"]
  | .join .. => ["Join"]
  | .cross .. => ["CrossProduct"]
  | .project .. => ["Project"]
  | .set .. => ["SetOp"]
  | .write .. => ["Write"]
  | .unset | .other _ => []

namespace LoweringContext

variable {c : LoweringContext} {names : Option (List String)} {n k : Nat} {r : Relation}

/-- What a read is lowered to depends on which parts it has. -/
lemma operator_of_lowerRead {read : Read} (h : (c.lowerRead read).runFrom n = (.ok r, k)) :
    r.operator ∈ (Rel.read read).operators := by
  obtain ⟨scan, source, hscan, hf, hk⟩ := lowerRead_eq_ok.mp h
  rcases keepColumns_eq_ok.mp hk with ⟨-, rfl⟩ | ⟨-, columns, -, rfl⟩
  · rcases filtered_eq_ok.mp hf with ⟨-, rfl⟩ | ⟨condition, e, -, -, rfl⟩
    · have hs := isScan_of_scan hscan
      cases r with
      | table | view | inline | aliased => simp [Rel.operators, Relation.operator]
      | _ => cases hs
    · simp [Rel.operators, Relation.operator]
  · simp [Rel.operators, Relation.operator]

/-- The kind of a relation says which operators it may become. -/
lemma operator_of_lowerRel {rel : Rel} (h : (c.lowerRel rel names).runFrom n = (.ok r, k)) :
    r.operator ∈ rel.operators := by
  cases rel with
  | unset | other => cases h
  | read read =>
    rw [lowerRel] at h
    exact operator_of_lowerRead h
  | filter input condition =>
    obtain ⟨source, e, -, -, rfl⟩ := lowerRel_filter_eq_ok.mp h
    exact List.mem_singleton_self _
  | fetch input offset count =>
    obtain ⟨bounds, source, -, -, rfl⟩ := lowerRel_fetch_eq_ok.mp h
    exact List.mem_singleton_self _
  | aggregate input groupings measures =>
    obtain ⟨groups, calls, source, -, -, -, rfl⟩ := lowerRel_aggregate_eq_ok.mp h
    exact List.mem_singleton_self _
  | sort input sorts =>
    obtain ⟨keys, source, -, -, rfl⟩ := lowerRel_sort_eq_ok.mp h
    exact List.mem_singleton_self _
  | join left right condition type =>
    obtain ⟨kind, e, source, source', j, -, -, -, -, rfl⟩ := lowerRel_join_eq_ok.mp h
    exact List.mem_singleton_self _
  | cross left right =>
    obtain ⟨source, source', j, -, -, rfl⟩ := lowerRel_cross_eq_ok.mp h
    exact List.mem_singleton_self _
  | project input expressions =>
    obtain ⟨columns, source, -, -, rfl⟩ := lowerRel_project_eq_ok.mp h
    exact List.mem_singleton_self _
  | set inputs op =>
    obtain ⟨left, right, rfl⟩ := eq_pair_of_lowerRel_set h
    obtain ⟨operator, source, source', j, -, -, -, rfl⟩ := lowerRel_set_eq_ok.mp h
    exact List.mem_singleton_self _
  | write target op input =>
    obtain ⟨name, source, effect, -, -, -, rfl⟩ := lowerRel_write_eq_ok.mp h
    exact List.mem_singleton_self _

/-- A call of a table function is lowered together with a name for it. -/
lemma operator_ne_tableFunction_of_lowerRel {rel : Rel}
    (h : (c.lowerRel rel names).runFrom n = (.ok r, k)) : r.operator ≠ "TableFunction" := by
  intro hr
  have hop := operator_of_lowerRel h
  rw [hr] at hop
  cases rel <;> simp [Rel.operators] at hop

/-- Only writes are lowered to writes. -/
lemma ne_write_of_lowerRel {rel : Rel} (hrel : ∀ target op input, rel ≠ .write target op input)
    (h : (c.lowerRel rel names).runFrom n = (.ok r, k)) (target : TargetName)
    (effect : WriteEffect) : r ≠ .write target effect := by
  rintro rfl
  have hop := operator_of_lowerRel h
  cases rel with
  | write target op input => exact hrel _ _ _ rfl
  | _ => simp [Rel.operators, Relation.operator] at hop

end LoweringContext

end PlanImport
