import PlanImport.Proofs.Catalog
import PlanImport.Proofs.Lowering.Rel

/-!
# Targets of deletes

A delete is lowered if its input is a filtered scan of a table. Only the condition is kept of the
input, so the columns in it are taken for columns of the target. Nothing sees to it that the target
is the table that is scanned: it is if the plan gives both the same name.
-/

namespace PlanImport

open Engine Plan

/-! ### Filtered scans of tables -/

/-- The parts of the name and the condition of a filtered table. -/
def Plan.Rel.filteredTable? : Rel → Option (List String × Expression)
  | .filter (some (.read ⟨.namedTable parts, none, []⟩)) (some condition) => some (parts, condition)
  | .read ⟨.namedTable parts, some condition, []⟩ => some (parts, condition)
  | _ => none

namespace LoweringContext

variable {c : LoweringContext} {n k : Nat} {names : Option (List String)} {info : TableInfo}
  {lock : LockMode} {e : Expr}

/-- The schema and the name that are looked up for a table of the given name. -/
def tableName? (c : LoweringContext) : List String → Option (String × String)
  | [name] => some (c.defaultSchema, name)
  | [schema, name] => some (schema, name)
  | _ => none

/-- A scan of a table is given for a name exactly if a table is found under it. -/
lemma scanNamed_eq_table_iff {schema name : String} :
    c.scanNamed schema name = .ok (.table info lock) ↔
      c.catalog.findTable schema name = .ok info ∧ lock = c.lockMode := by
  rw [scanNamed_eq_ok]
  constructor
  · rintro (⟨table, hfind, hr⟩ | ⟨error, view, -, -, hr⟩)
    · cases hr
      exact ⟨hfind, rfl⟩
    · cases hr
  · rintro ⟨hfind, rfl⟩
    exact .inl ⟨info, hfind, rfl⟩

/-- A scan of a table is given for parts of a name exactly if they name a table that is found. -/
lemma scanTable_eq_table_iff {parts : List String} :
    c.scanTable parts = .ok (.table info lock) ↔ ∃ schema name,
      c.tableName? parts = some (schema, name) ∧
        c.catalog.findTable schema name = .ok info ∧ lock = c.lockMode := by
  rcases parts with _ | ⟨first, _ | ⟨second, _ | ⟨third, rest⟩⟩⟩
  · simp [scanTable, tableName?]
  · simp [scanTable, tableName?, scanNamed_eq_table_iff]
  · simp [scanTable, tableName?, scanNamed_eq_table_iff]
  · simp [scanTable, tableName?]

/-- Only named tables are scanned as tables. -/
lemma scan_eq_table_iff {kind : ReadKind} :
    (c.scan kind).runFrom n = (.ok (.table info lock), k) ↔
      k = n ∧ ∃ parts, kind = .namedTable parts ∧ c.scanTable parts = .ok (.table info lock) := by
  cases kind with
  | namedTable parts => simp [scan, eq_comm, and_comm]
  | unset | extensionTable => simp [scan]
  | localFiles items => simp [scan, scanFiles_eq_ok]
  | icebergTable file => simp [scan, scanMetadata_eq_ok]
  | virtualTable values expressions =>
    simp only [reduceCtorEq, false_and, exists_false, and_false, iff_false]
    intro h
    obtain ⟨rows, hr⟩ := exists_inline_of_scanInline (Prod.mk.inj h).1
    cases hr

/-- A read is lowered to a bare table if it has neither a condition nor a choice of columns. -/
lemma lowerRead_eq_table_iff {read : Read} :
    (c.lowerRead read).runFrom n = (.ok (.table info lock), k) ↔
      k = n ∧ ∃ parts, read = ⟨.namedTable parts, none, []⟩ ∧
        c.scanTable parts = .ok (.table info lock) := by
  obtain ⟨kind, filter, fields⟩ := read
  rw [lowerRead_eq_ok_of_ne_project (r := .table info lock) nofun]
  constructor
  · rintro ⟨hfields, scan, hscan, hf⟩
    rcases filtered_eq_ok.mp hf with ⟨hfilter, rfl⟩ | ⟨condition, e, -, -, hr⟩
    · obtain ⟨rfl, parts, hkind, htable⟩ := scan_eq_table_iff.mp hscan
      refine ⟨rfl, parts, ?_, htable⟩
      rw [Read.mk.injEq]
      exact ⟨hkind, hfilter, hfields⟩
    · cases hr
  · rintro ⟨rfl, parts, hread, htable⟩
    cases hread
    exact ⟨rfl, _, scan_eq_table_iff.mpr ⟨rfl, parts, rfl, htable⟩, rfl⟩

/-- A read with a condition and without a choice of columns becomes a filtered table as well. -/
lemma lowerRead_eq_filter_iff {read : Read} :
    (c.lowerRead read).runFrom n = (.ok (.filter (.table info lock) e), k) ↔
      k = n ∧ ∃ parts condition, read = ⟨.namedTable parts, some condition, []⟩ ∧
        condition.lower c.functions = .ok e ∧ c.scanTable parts = .ok (.table info lock) := by
  obtain ⟨kind, filter, fields⟩ := read
  rw [lowerRead_eq_ok_of_ne_project (r := .filter (.table info lock) e) nofun]
  constructor
  · rintro ⟨hfields, scan, hscan, hf⟩
    rcases filtered_eq_ok.mp hf with ⟨-, rfl⟩ | ⟨condition, e', hfilter, he, hr⟩
    · cases isScan_of_scan hscan
    · cases hr
      obtain ⟨rfl, parts, hkind, htable⟩ := scan_eq_table_iff.mp hscan
      refine ⟨rfl, parts, condition, ?_, he, htable⟩
      rw [Read.mk.injEq]
      exact ⟨hkind, hfilter, hfields⟩
  · rintro ⟨rfl, parts, condition, hread, he, htable⟩
    cases hread
    refine ⟨rfl, _, scan_eq_table_iff.mpr ⟨rfl, parts, rfl, htable⟩, ?_⟩
    exact filtered_eq_ok.mpr (.inr ⟨condition, e, rfl, he, rfl⟩)

/-- A relation is lowered to a bare table exactly if it is such a read. -/
lemma lowerRel_eq_table_iff {rel : Rel} :
    (c.lowerRel rel names).runFrom n = (.ok (.table info lock), k) ↔
      k = n ∧ ∃ parts, rel = .read ⟨.namedTable parts, none, []⟩ ∧
        c.scanTable parts = .ok (.table info lock) := by
  constructor
  · intro h
    have hop := operator_of_lowerRel h
    cases rel with
    | read read =>
      rw [lowerRel] at h
      obtain ⟨rfl, parts, rfl, htable⟩ := lowerRead_eq_table_iff.mp h
      exact ⟨rfl, parts, rfl, htable⟩
    | _ => simp [Rel.operators, Relation.operator] at hop
  · rintro ⟨rfl, parts, rfl, htable⟩
    rw [lowerRel]
    exact lowerRead_eq_table_iff.mpr ⟨rfl, parts, rfl, htable⟩

/-- What is lowered to a filtered scan of a table. -/
lemma lowerRel_eq_filter_iff {rel : Rel} :
    (c.lowerRel rel names).runFrom n = (.ok (.filter (.table info lock) e), k) ↔
      k = n ∧ ∃ parts condition, rel.filteredTable? = some (parts, condition) ∧
        condition.lower c.functions = .ok e ∧ c.scanTable parts = .ok (.table info lock) := by
  constructor
  · intro h
    have hop := operator_of_lowerRel h
    cases rel with
    | read read =>
      rw [lowerRel] at h
      obtain ⟨rfl, parts, condition, rfl, he, htable⟩ := lowerRead_eq_filter_iff.mp h
      exact ⟨rfl, parts, condition, rfl, he, htable⟩
    | filter input condition =>
      obtain ⟨source, e', hs, he, hr⟩ := lowerRel_filter_eq_ok.mp h
      cases hr
      obtain ⟨rel, rfl, hs⟩ := lowerInput_eq_ok.mp hs
      obtain ⟨rfl, parts, rfl, htable⟩ := lowerRel_eq_table_iff.mp hs
      cases condition with
      | none => cases he
      | some condition => exact ⟨rfl, parts, condition, rfl, he, htable⟩
    | _ => simp [Rel.operators, Relation.operator] at hop
  · rintro ⟨rfl, parts, condition, hrel, he, htable⟩
    unfold Rel.filteredTable? at hrel
    split at hrel
    · cases hrel
      exact lowerRel_filter_eq_ok.mpr ⟨_, _, lowerInput_eq_ok.mpr
        ⟨_, rfl, lowerRel_eq_table_iff.mpr ⟨rfl, _, rfl, htable⟩⟩, he, rfl⟩
    · cases hrel
      rw [lowerRel]
      exact lowerRead_eq_filter_iff.mpr ⟨rfl, _, _, rfl, he, htable⟩
    · cases hrel

end LoweringContext

/-! ### Deletes -/

/-- Only a filtered table can be deleted from, and nothing of the table is kept. -/
lemma writeEffect_delete_eq_ok {source : Relation} {effect : WriteEffect} :
    writeEffect 2 source = .ok effect ↔
      ∃ info lock e, source = .filter (.table info lock) e ∧ effect = .delete e := by
  unfold writeEffect
  rw [if_neg (by decide), if_neg (by decide), if_pos rfl]
  split
  · simp [eq_comm]
  · rename_i other hother
    simp only [reduceCtorEq, false_iff]
    rintro ⟨info, lock, e, rfl, -⟩
    exact hother info lock e rfl

namespace LoweringContext

variable {c : LoweringContext} {n k : Nat} {names : Option (List String)} {target : WriteTarget}
  {input : Option Rel}

/-- A delete is lowered exactly if its target is named and its input is a filtered scan of a
table. -/
lemma lowerRel_delete_eq_ok {r : Relation} :
    (c.lowerRel (.write target 2 input) names).runFrom n = (.ok r, k) ↔
      ∃ t info lock e, target.name = .ok t ∧
        (c.lowerInput "write.input" input none).runFrom n =
          (.ok (.filter (.table info lock) e), k) ∧ r = .write t (.delete e) := by
  rw [lowerRel_write_eq_ok]
  constructor
  · rintro ⟨t, source, effect, ht, hs, he, rfl⟩
    obtain ⟨info, lock, e, rfl, rfl⟩ := writeEffect_delete_eq_ok.mp he
    exact ⟨t, info, lock, e, ht, hs, rfl⟩
  · rintro ⟨t, info, lock, e, ht, hs, rfl⟩
    exact ⟨t, _, _, ht, hs, writeEffect_delete_eq_ok.mpr ⟨info, lock, e, rfl, rfl⟩, rfl⟩

/-- The table that is scanned under the filter of the input has the schema and the name of the
target. -/
def ScansTarget (c : LoweringContext) (target : WriteTarget) (input : Option Rel) (n : Nat) :
    Prop :=
  ∃ t info lock e k, target.name = .ok t ∧
    (c.lowerInput "write.input" input none).runFrom n = (.ok (.filter (.table info lock) e), k) ∧
    info.schema = t.schema.getD c.defaultSchema ∧ info.name = t.name

/-- The filtered table has the name of the target, and no other table has this qualified name. -/
def NamesTarget (c : LoweringContext) (target : WriteTarget) (rel : Rel) : Prop :=
  ∀ parts condition e schema name t, rel.filteredTable? = some (parts, condition) →
    condition.lower c.functions = .ok e → c.tableName? parts = some (schema, name) →
    target.name = .ok t →
    schema = t.schema.getD c.defaultSchema ∧ name = t.name ∧
      '.' ∉ schema.toList ∧ '.' ∉ name.toList

/-- Whatever tables there are, a delete that is lowered scans its own target exactly if its input
names the target. -/
theorem delete_scansTarget_iff :
    (∀ catalog : Catalog, catalog.KeepsOwnNames → ∀ names r k,
      ({ c with catalog }.lowerRel (.write target 2 input) names).runFrom n = (.ok r, k) →
      { c with catalog }.ScansTarget target input n) ↔
    ∀ rel, input = some rel → c.NamesTarget target rel := by
  constructor
  · rintro h rel rfl parts condition e schema name t hrel he hname ht
    -- Any table with the qualified name may be the one that is scanned.
    have hscan : ∀ schema' name', qualifiedName schema' name' = qualifiedName schema name →
        schema' = t.schema.getD c.defaultSchema ∧ name' = t.name := by
      intro schema' name' hq
      let info : TableInfo := ⟨schema', name', []⟩
      let catalog := Catalog.empty.insertTable info
      have hfind : catalog.findTable schema name = .ok info :=
        Catalog.empty.findTable_insertTable hq
      have hinput : ({ c with catalog }.lowerInput "write.input" (some rel) none).runFrom n =
          (.ok (.filter (.table info c.lockMode) e), n) :=
        lowerInput_eq_ok.mpr ⟨rel, rfl, lowerRel_eq_filter_iff.mpr ⟨rfl, parts, condition, hrel, he,
          scanTable_eq_table_iff.mpr ⟨schema, name, hname, hfind, rfl⟩⟩⟩
      have hdelete : ({ c with catalog }.lowerRel (.write target 2 (some rel)) none).runFrom n =
          (.ok (.write t (.delete e)), n) :=
        lowerRel_delete_eq_ok.mpr ⟨t, info, _, e, ht, hinput, rfl⟩
      obtain ⟨t', info', lock, e', k, ht', hinput', hs, hn⟩ :=
        h catalog (Catalog.keepsOwnNames_empty.insertTable info) none _ _ hdelete
      rw [hinput] at hinput'
      cases hinput'
      rw [ht] at ht'
      cases ht'
      exact ⟨hs, hn⟩
    obtain ⟨hs, hn⟩ := hscan schema name rfl
    refine ⟨hs, hn, forall_qualifiedName_eq_iff.mp fun schema' name' hq => ?_⟩
    obtain ⟨hs', hn'⟩ := hscan schema' name' hq
    exact ⟨hs'.trans hs.symm, hn'.trans hn.symm⟩
  · intro h catalog hown names r k hdelete
    obtain ⟨t, info, lock, e, ht, hinput, -⟩ := lowerRel_delete_eq_ok.mp hdelete
    refine ⟨t, info, lock, e, k, ht, hinput, ?_⟩
    obtain ⟨rel, rfl, hrel⟩ := lowerInput_eq_ok.mp hinput
    obtain ⟨-, parts, condition, hparts, he, htable⟩ := lowerRel_eq_filter_iff.mp hrel
    obtain ⟨schema, name, hname, hfind, -⟩ := scanTable_eq_table_iff.mp htable
    obtain ⟨hs, hn, hpoints⟩ := h rel rfl parts condition e schema name t hparts he hname ht
    obtain ⟨hschema, hname'⟩ :=
      forall_qualifiedName_eq_iff.mpr hpoints info.schema info.name (hown.key_eq hfind)
    exact ⟨hschema.trans hs, hname'.trans hn⟩

def people : TableInfo := ⟨"main", "people", [⟨"id", .integer⟩, ⟨"active", .boolean⟩]⟩

def orders : TableInfo := ⟨"main", "orders", [⟨"total", .integer⟩]⟩

/-- A context in which there are these tables. -/
def ordersContext : LoweringContext where
  functions := .empty
  catalog := (Catalog.empty.insertTable people).insertTable orders
  acquireLock := true
  defaultSchema := "main"

/-- A delete from one table is lowered with a condition on the columns of another one. -/
theorem not_scansTarget_other_table :
    ¬ ∀ (c : LoweringContext) (catalog : Catalog) (target : WriteTarget) (input : Option Rel)
      (n : Nat) (names : Option (List String)) (r : Relation) (k : Nat), catalog.KeepsOwnNames →
      ({ c with catalog }.lowerRel (.write target 2 input) names).runFrom n = (.ok r, k) →
      { c with catalog }.ScansTarget target input n := by
  intro h
  let input : Rel := .filter (some (.read ⟨.namedTable ["people"], none, []⟩))
    (some (.selection (.structField 1 false)))
  have hinput : (ordersContext.lowerInput "write.input" (some input) none).runFrom 0 =
      (.ok (.filter (.table people .acquire) (.column 2)), 0) := rfl
  have hdelete : (ordersContext.lowerRel (.write (.namedTable ["orders"]) 2 (some input))
      none).runFrom 0 = (.ok (.write ⟨none, "orders"⟩ (.delete (.column 2))), 0) := rfl
  obtain ⟨t, info, lock, e, k, ht, hinput', -, hname⟩ := h ordersContext _ _ _ _ _ _ _
    ((Catalog.keepsOwnNames_empty.insertTable people).insertTable orders) hdelete
  cases hinput.symm.trans hinput'
  cases ht
  exact absurd hname (by decide)

end LoweringContext

end PlanImport
