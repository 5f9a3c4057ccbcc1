import PlanImport.Proofs.Meaning.Expression
import PlanImport.Proofs.Naming.Relation

/-!
# Lowered relations have the same rows

A relation of the core and what it is lowered to have the same rows in the same order, whatever the
rows of the tables and the names of the output columns are.
-/

namespace PlanImport

open Engine Plan

/-! ### Names of fields -/

namespace NameStream

/-- Structs have no value, whether their fields have names or not. -/
lemma eval_nameColumn (s : NameStream) (row : Row) (e : Expr) :
    (s.nameColumn e).1.eval row = e.eval row := by
  obtain h | ⟨fields, names, rest, rfl, -, h⟩ := s.fst_nameColumn e
  · rw [h]
  · rw [h]
    rfl

lemma evalAll_nameColumns (s : NameStream) (row : Row) (es : List Expr) :
    Expr.evalAll row (s.nameColumns es) = Expr.evalAll row es := by
  induction es generalizing s with
  | nil => rfl
  | cons e es ih =>
    rw [nameColumns_cons, Expr.evalAll, Expr.evalAll, eval_nameColumn, ih]

end NameStream

/-- Names of fields have no part in the rows. -/
lemma Engine.Relation.rows_nameFields (tables : TableRows) (names : List String) (r : Relation) :
    (r.nameFields names).rows tables = r.rows tables := by
  match r with
  | project input es labels =>
    rw [nameFields, rows, rows]
    simp only [NameStream.evalAll_nameColumns]
  | limit input count offset => rw [nameFields, rows, rows_nameFields tables names input, rows]
  | sort input keys => rw [nameFields, rows, rows_nameFields tables names input, rows]
  | setOperation left right .unionAll =>
    rw [nameFields, rows, rows_nameFields tables names right, rows]
  | setOperation left right .except | setOperation left right .intersect => rfl
  | table .. | view .. | tableFunction .. | inline .. | aliased .. | filter .. | aggregate ..
  | join .. | product .. | write .. => rfl

/-! ### Parts of relations -/

namespace LoweringContext

variable {c : LoweringContext}

lemma lowerAll_eq_mapM (functions : FunctionTable) (es : List Expression) :
    lowerAll functions es = es.mapM (Expression.lower functions) := by
  induction es with
  | nil => rfl
  | cons e es ih => rw [lowerAll, ih, List.mapM_cons]

/-- Expressions have the values of those that they become, one by one. -/
lemma evalAll_lowerAll {es : List Expression} {columns : List Expr}
    (hcore : es.all (Expression.isCore c.functions) = true)
    (h : lowerAll c.functions es = .ok columns) (row : Row) :
    Expr.evalAll row columns = es.mapM (Expression.eval c.functions row) := by
  rw [lowerAll_eq_mapM] at h
  rw [Expr.evalAll_eq_mapM]
  apply mapM_eq_mapM_of_mapM h
  intro e he e' hlower
  exact e.eval_lower (List.all_eq_true.mp hcore e he) hlower row

/-- The columns that are kept have the values of the fields. -/
lemma evalAll_keptColumns {fields : List Int32} {columns : List Expr}
    (h : fields.mapM keptColumn = .ok columns) (row : Row) :
    Expr.evalAll row columns = fields.mapM (fieldOf? row) := by
  rw [Expr.evalAll_eq_mapM]
  apply mapM_eq_mapM_of_mapM h
  intro field _ e hfield
  unfold keptColumn at hfield
  unfold fieldOf?
  split_ifs at hfield ⊢
  cases hfield
  rfl

/-- A condition that is lowered is there, and its value stays the same. -/
lemma eval_lowerRequired {field : String} {condition : Option Expression} {e : Expr}
    (hcore : condition.all (Expression.isCore c.functions) = true)
    (h : lowerRequired c.functions field condition = .ok e) :
    ∃ e', condition = some e' ∧ ∀ row, e.eval row = e'.eval c.functions row := by
  cases condition with
  | none => cases h
  | some e' => exact ⟨e', rfl, e'.eval_lower hcore h⟩

/-- The numbers of the directions are read as they are lowered. -/
lemma sortOrder?_sortDirection {number : Int32} {direction : SortDirection}
    {nulls : NullPlacement} (h : sortDirection number = .ok (direction, nulls)) :
    Value.sortOrder? (direction = .descending) (nulls = .first) =
      Value.sortOrder? (number = 3 ∨ number = 4) (number = 1 ∨ number = 3) := by
  unfold sortDirection at h
  split_ifs at h <;> cases h
  all_goals
    subst_vars
    rfl

/-- Rows are ordered by a sort key as by the one that it becomes. -/
lemma order?_lowerSortField {f : SortField} {key : SortKey} (hcore : f.isCore c.functions = true)
    (h : c.lowerSortField f = .ok key) : key.order? = f.order? c.functions := by
  obtain ⟨number, hkind, hdirection, he⟩ := lowerSortField_eq_ok.mp h
  obtain ⟨expr, kind⟩ := f
  cases hkind
  cases expr with
  | none => cases he
  | some e =>
    have heval := e.eval_lower (Bool.and_eq_true_iff.mp hcore).2 he
    funext a b
    simp only [SortKey.order?, SortField.order?, heval, sortOrder?_sortDirection hdirection]

/-- A table that is known is found before any view. -/
lemma scanTable_of_namedTable? {parts : List String} {table : TableInfo}
    (h : c.namedTable? parts = some table) : c.scanTable parts = .ok (.table table c.lockMode) := by
  obtain ⟨⟨schema, name⟩, hname, hfind⟩ := Option.bind_eq_some_iff.mp h
  apply scanTable_eq_table_iff.mpr
  refine ⟨schema, name, hname, ?_, rfl⟩
  cases hf : c.catalog.findTable schema name with
  | ok info =>
    simp only [hf, Except.toOption, Option.some.injEq] at hfind
    rw [hfind]
  | error error => simp [hf, Except.toOption] at hfind

/-- A condition lets the same rows pass as the filter that it becomes. -/
lemma rows_filtered {filter : Option Expression} {scan source : Relation}
    (hcore : filter.all (Expression.isCore c.functions) = true)
    (h : c.filtered filter scan = .ok source) (tables : TableRows) :
    source.rows tables = scan.rows tables >>= c.filteredRows? filter := by
  rcases filtered_eq_ok.mp h with ⟨rfl, rfl⟩ | ⟨condition, e, rfl, he, rfl⟩
  · exact (bind_pure _).symm
  · rw [Relation.rows]
    simp only [condition.eval_lower hcore he]
    rfl

/-- Rows are cut to the columns that are kept, or left as they are if none is named. -/
lemma rows_keepColumns {fields : List Int32} {source r : Relation}
    (h : keepColumns fields source = .ok r) (tables : TableRows) :
    r.rows tables = source.rows tables >>= cutRows? fields := by
  unfold keepColumns at h
  unfold cutRows?
  split_ifs at h ⊢
  · cases h
    exact (bind_pure _).symm
  · obtain ⟨columns, hcolumns, rfl⟩ := map_eq_ok.mp h
    rw [Relation.rows]
    simp only [evalAll_keptColumns hcolumns]

/-- A read of a known table is these three steps one after the other. -/
lemma rows_lowerRead {read : Read} {n k : Nat} {r : Relation} (hcore : c.readIsCore read = true)
    (h : (c.lowerRead read).runFrom n = (.ok r, k)) (tables : TableRows) :
    r.rows tables = c.readRows tables read := by
  obtain ⟨kind, filter, fields⟩ := read
  cases kind with
  | namedTable parts =>
    obtain ⟨hparts, hfilter⟩ := Bool.and_eq_true_iff.mp hcore
    obtain ⟨table, htable⟩ := Option.isSome_iff_exists.mp hparts
    obtain ⟨scan, source, hscan, hsource, hr⟩ := lowerRead_eq_ok.mp h
    rw [LoweringContext.scan, Lowering.runFrom_lift, scanTable_of_namedTable? htable] at hscan
    cases hscan
    rw [rows_keepColumns hr, rows_filtered hfilter hsource, Relation.rows, readRows]
    simp only [htable]
    rfl
  | _ => cases hcore

/-- The bounds of a fetch are not negative, so they stay the same as unsigned integers. -/
lemma toNat_fetchBounds {offset count : Int64} {bounds : Option UInt64 × UInt64}
    (h : fetchBounds offset count = .ok bounds) :
    bounds.2.toNat = offset.toInt.toNat ∧
      bounds.1.map UInt64.toNat = if count = -1 then none else some count.toInt.toNat := by
  obtain ⟨hoffset, hcount, rfl⟩ := fetchBounds_eq_ok.mp h
  refine ⟨Int64.toNat_toUInt64_of_le hoffset, ?_⟩
  by_cases hall : count = -1
  · simp [hall]
  · have hcount : 0 ≤ count := hcount.resolve_left hall
    simp only [hall, if_false, Option.map_some, Int64.toNat_toUInt64_of_le hcount]
    rfl

/-! ### Relations -/

/-- The rows of a relation are those of the one that it becomes. The recursion follows the relation,
with one case for each kind of the core. -/
lemma rows_lowerRel_none {rel : Rel} {n k : Nat} {r : Relation} (hcore : c.relIsCore rel = true)
    (h : (c.lowerRel rel none).runFrom n = (.ok r, k)) (tables : TableRows) :
    r.rows tables = c.relRows tables rel := by
  match rel with
  | .read read =>
    rw [lowerRel] at h
    rw [relRows, rows_lowerRead hcore h]
  | .filter input condition =>
    obtain ⟨source, e, hs, he, rfl⟩ := lowerRel_filter_eq_ok.mp h
    obtain ⟨rel, rfl, hs⟩ := lowerInput_eq_ok.mp hs
    obtain ⟨hinput, hcondition⟩ := Bool.and_eq_true_iff.mp hcore
    obtain ⟨condition, rfl, heval⟩ := eval_lowerRequired hcondition he
    rw [Relation.rows, relRows, inputRows, rows_lowerRel_none hinput hs]
    simp only [heval]
  | .fetch input offset count =>
    obtain ⟨bounds, source, hbounds, hs, rfl⟩ := lowerRel_fetch_eq_ok.mp h
    obtain ⟨rel, rfl, hs⟩ := lowerInput_eq_ok.mp hs
    have hinput : c.relIsCore rel = true := hcore
    obtain ⟨hoffset, hcount⟩ := toNat_fetchBounds hbounds
    rw [Relation.rows, relRows, inputRows, rows_lowerRel_none hinput hs, hoffset, hcount]
  | .sort input sorts =>
    obtain ⟨keys, source, hkeys, hs, rfl⟩ := lowerRel_sort_eq_ok.mp h
    obtain ⟨rel, rfl, hs⟩ := lowerInput_eq_ok.mp hs
    obtain ⟨hinput, hsorts⟩ := Bool.and_eq_true_iff.mp hcore
    have horders : keys.map SortKey.order? = sorts.map (SortField.order? c.functions) :=
      map_eq_map_of_mapM hkeys fun f hf key hkey =>
        order?_lowerSortField (List.all_eq_true.mp hsorts f hf) hkey
    rw [Relation.rows, relRows, inputRows, rows_lowerRel_none hinput hs, horders]
  | .cross left right =>
    obtain ⟨source, source', j, hs, hs', rfl⟩ := lowerRel_cross_eq_ok.mp h
    obtain ⟨left, rfl, hs⟩ := lowerInput_eq_ok.mp hs
    obtain ⟨right, rfl, hs'⟩ := lowerInput_eq_ok.mp hs'
    obtain ⟨hleft, hright⟩ := Bool.and_eq_true_iff.mp hcore
    rw [Relation.rows, Relation.rows, Relation.rows, relRows, inputRows, inputRows,
      rows_lowerRel_none hleft hs, rows_lowerRel_none hright hs']
  | .project input expressions =>
    obtain ⟨columns, source, hcolumns, hs, rfl⟩ := lowerRel_project_eq_ok.mp h
    obtain ⟨rel, rfl, hs⟩ := lowerInput_eq_ok.mp hs
    obtain ⟨hinput, hexpressions⟩ := Bool.and_eq_true_iff.mp hcore
    rw [Relation.rows, relRows, inputRows, rows_lowerRel_none hinput hs]
    simp only [evalAll_lowerAll hexpressions hcolumns]
  | .set inputs op =>
    obtain ⟨left, right, rfl⟩ := eq_pair_of_lowerRel_set h
    obtain ⟨operator, source, source', j, hop, hs, hs', rfl⟩ := lowerRel_set_eq_ok.mp h
    obtain ⟨hunion, hrels⟩ := Bool.and_eq_true_iff.mp hcore
    simp only [relsAreCore, Bool.and_true, Bool.and_eq_true] at hrels
    cases of_decide_eq_true hunion
    cases hop
    rw [Relation.rows, relRows, if_pos rfl, rows_lowerRel_none hrels.1 hs,
      rows_lowerRel_none hrels.2 hs']
    simp [unionRows]
  | .unset | .aggregate .. | .join .. | .write .. | .other _ => cases hcore
termination_by rel

/-- Lowering keeps the rows: the engine's relation has those that the relation of the plan has, in
the same order. -/
theorem rows_lowerRel {rel : Rel} {names : Option (List String)} {n k : Nat} {r : Relation}
    (hcore : c.relIsCore rel = true) (h : (c.lowerRel rel names).runFrom n = (.ok r, k))
    (tables : TableRows) : r.rows tables = c.relRows tables rel := by
  cases names with
  | none => exact rows_lowerRel_none hcore h tables
  | some names =>
    rw [lowerRel_some, Lowering.runFrom_map] at h
    obtain ⟨hr, hk⟩ := Prod.mk.inj h
    obtain ⟨source, hsource, rfl⟩ := map_eq_ok.mp hr
    rw [Relation.rows_nameFields]
    exact rows_lowerRel_none hcore (Prod.ext hsource hk) tables

def scores : TableInfo := ⟨"main", "scores", [⟨"player", .varchar⟩, ⟨"points", .integer⟩]⟩

/-- A context with this table and four functions. -/
def scoresContext : LoweringContext where
  functions := .ofDeclarations [.function 1 0 "or:bool", .function 1 1 "is_null:any",
    .function 1 2 "gte:any_any", .function 1 3 "not_equal:any_any"]
  catalog := Catalog.empty.insertTable scores
  acquireLock := true
  defaultSchema := "main"

/-- All players with their own points, and each of them with the points of every other player who
has none or ten at least: in descending order of points, so many rows after the first one. -/
def rivals (count : Int64) : Rel :=
  let field (i : Int32) : Expression := .selection (.structField i false)
  let call (anchor : UInt32) (args : List Expression) : Expression :=
    .call anchor (args.map .value)
  let enough := call 0 [call 1 [field 1], call 2 [field 1, .literal ⟨.i32 10, false⟩]]
  let points : Rel := .read ⟨.namedTable ["scores"], some enough, [1, 0]⟩
  let players : Rel := .read ⟨.namedTable ["main", "scores"], none, [0]⟩
  let pairs : Rel := .filter (some (.cross (some points) (some players)))
    (some (call 3 [field 1, field 2]))
  let named : Rel := .project (some pairs) [field 2, field 0]
  let all : Rel := .set [.read ⟨.namedTable ["scores"], none, []⟩, named] 6
  .fetch (some (.sort (some all) [⟨some (field 1), .direction 4⟩, ⟨some (field 0), .direction 1⟩]))
    1 count

def scoreRows : TableRows := fun _ _ =>
  [[.varchar "ann", .integer 12], [.varchar "bob", .null], [.varchar "cat", .integer 30],
    [.varchar "dan", .integer 5]]

/-- With names for both columns, the rows after the first one are those of the plan. -/
theorem rows_lowerRel_rivals : ∃ r, scoresContext.relIsCore (rivals 3) = true ∧
    (scoresContext.lowerRel (rivals 3) (some ["player", "points"])).runFrom 0 = (.ok r, 0) ∧
    r.rows scoreRows = some [[.varchar "bob", .integer 30], [.varchar "cat", .integer 30],
      [.varchar "dan", .integer 30]] := by
  have hcore : scoresContext.relIsCore (rivals 3) = true := rfl
  have hrows : scoresContext.relRows scoreRows (rivals 3) =
      some [[.varchar "bob", .integer 30], [.varchar "cat", .integer 30],
        [.varchar "dan", .integer 30]] := rfl
  obtain ⟨r, hlower⟩ : ∃ r, (scoresContext.lowerRel (rivals 3) (some ["player", "points"])).runFrom
      0 = (.ok r, 0) := ⟨_, rfl⟩
  exact ⟨r, hcore, hlower, (rows_lowerRel hcore hlower scoreRows).trans hrows⟩

end LoweringContext

end PlanImport
