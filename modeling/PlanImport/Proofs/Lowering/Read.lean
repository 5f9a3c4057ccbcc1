import PlanImport.Lowering.Read
import PlanImport.Proofs.Lowering.Run

/-!
# When a read is lowered

A read that is lowered is a scan, under the filter if there is one, under a projection if only some
columns are kept. Only scans of files are numbered, and each takes one number.
-/

namespace PlanImport

open Engine Plan
open Lowering

/-- Whether this is what a read without a filter or a choice of columns can be lowered to. -/
def Engine.Relation.isScan : Relation → Bool
  | .table .. | .view .. | .inline .. | .aliased _ (.tableFunction ..) => true
  | _ => false

namespace LoweringContext

variable {c : LoweringContext} {n k : Nat} {r : Relation}

/-! ### Scans -/

/-- A name resolves to the table under it, or else to the view under it. -/
lemma scanNamed_eq_ok {schema name : String} :
    c.scanNamed schema name = .ok r ↔
      (∃ table, c.catalog.findTable schema name = .ok table ∧ r = .table table c.lockMode) ∨
      (∃ error view, c.catalog.findTable schema name = .error error ∧
        c.catalog.findView schema name = .ok view ∧ r = .view view c.lockMode) := by
  unfold scanNamed
  cases c.catalog.findTable schema name with
  | ok table => simp [eq_comm]
  | error error =>
    cases c.catalog.findView schema name with
    | ok view => simp [eq_comm]
    | error error => simp

/-- A name of a table stands for a table or a view. -/
lemma exists_of_scanTable {parts : List String} (h : c.scanTable parts = .ok r) :
    ∃ info, r = .table info c.lockMode ∨ r = .view info c.lockMode := by
  have hnamed : ∀ schema name, c.scanNamed schema name = .ok r →
      ∃ info, r = .table info c.lockMode ∨ r = .view info c.lockMode := by
    intro schema name h
    rcases scanNamed_eq_ok.mp h with ⟨table, -, hr⟩ | ⟨error, view, -, -, hr⟩
    · exact ⟨table, .inl hr⟩
    · exact ⟨view, .inr hr⟩
  rcases parts with _ | ⟨name, _ | ⟨name', _ | ⟨third, rest⟩⟩⟩
  · cases h
  · exact hnamed _ _ h
  · exact hnamed _ _ h
  · cases h

lemma isScan_of_scanTable {parts : List String} (h : c.scanTable parts = .ok r) :
    r.isScan = true := by
  obtain ⟨info, rfl | rfl⟩ := exists_of_scanTable h
  · rfl
  · rfl

/-- There is at least one file, all of them are Parquet, and one number is taken for all. -/
lemma scanFiles_eq_ok {items : List FileItem} :
    (c.scanFiles items).runFrom n = (.ok r, k) ↔
      items ≠ [] ∧ ∃ paths, items.mapM FileItem.parquetPath = .ok paths ∧
        r = .aliased ("parquet" ++ "_" ++ .ofList (Text.digits n)) (.tableFunction "parquet_scan"
          [.list paths] [("binary_as_string", .boolean false)] c.lockMode) ∧ k = n + 1 := by
  unfold scanFiles
  cases items with
  | nil => simp
  | cons item rest =>
    simp only [List.isEmpty_cons, Bool.false_eq_true, if_false]
    rw [runFrom_lift_bind_eq_ok]
    simp only [runFrom_bind_pure_eq_ok, runFrom_scanName, Prod.mk.injEq, Except.ok.injEq]
    constructor
    · rintro ⟨paths, hp, name, ⟨rfl, rfl⟩, rfl⟩
      exact ⟨by simp, paths, hp, rfl, rfl⟩
    · rintro ⟨-, paths, hp, rfl, rfl⟩
      exact ⟨paths, hp, _, ⟨rfl, rfl⟩, rfl⟩

/-- There is a file with a path, and the snapshot has a parameter if there is one. The number is
taken at last. -/
lemma scanMetadata_eq_ok {file : Option MetadataFile} :
    (c.scanMetadata file).runFrom n = (.ok r, k) ↔
      ∃ f snapshot, file = some f ∧ f.uri.isEmpty = false ∧
        f.snapshot.toList.mapM Snapshot.parameter = .ok snapshot ∧
        r = .aliased ("iceberg" ++ "_" ++ .ofList (Text.digits n)) (.tableFunction "iceberg_scan"
          (.varchar f.uri :: snapshot) [] c.lockMode) ∧ k = n + 1 := by
  unfold scanMetadata
  cases file with
  | none => simp [required, runFrom_bind]
  | some f =>
    rw [runFrom_lift_bind_eq_ok]
    simp only [required, Except.ok.injEq, exists_eq_left', Option.some.injEq]
    cases hu : f.uri.isEmpty with
    | true => simp [hu]
    | false =>
      simp only [Bool.false_eq_true, if_false]
      rw [runFrom_lift_bind_eq_ok]
      simp only [runFrom_bind_pure_eq_ok, runFrom_scanName, Prod.mk.injEq, Except.ok.injEq]
      constructor
      · rintro ⟨snapshot, hs, name, ⟨rfl, rfl⟩, rfl⟩
        exact ⟨f, snapshot, rfl, hu, hs, rfl, rfl⟩
      · rintro ⟨f, snapshot, rfl, -, hs, rfl, rfl⟩
        exact ⟨snapshot, hs, _, ⟨rfl, rfl⟩, rfl⟩

/-- Both kinds of rows give an inline table. -/
lemma exists_inline_of_scanInline {values : List (List Literal)}
    {expressions : List (List Expression)} (h : c.scanInline values expressions = .ok r) :
    ∃ rows, r = .inline rows c.lockMode := by
  unfold scanInline at h
  split at h
  · obtain ⟨rows, -, hr⟩ := bind_eq_ok.mp h
    cases hr
    exact ⟨_, rfl⟩
  · obtain ⟨rows, -, hr⟩ := bind_eq_ok.mp h
    cases hr
    exact ⟨_, rfl⟩

/-- Whatever kind a read is of, it gives a scan. -/
lemma isScan_of_scan {kind : ReadKind} (h : (c.scan kind).runFrom n = (.ok r, k)) :
    r.isScan = true := by
  cases kind with
  | unset | extensionTable => cases h
  | namedTable names => exact isScan_of_scanTable (Prod.mk.inj h).1
  | localFiles items =>
    obtain ⟨-, paths, -, rfl, -⟩ := scanFiles_eq_ok.mp h
    rfl
  | icebergTable file =>
    obtain ⟨f, snapshot, -, -, -, rfl, -⟩ := scanMetadata_eq_ok.mp h
    rfl
  | virtualTable values expressions =>
    obtain ⟨rows, rfl⟩ := exists_inline_of_scanInline (Prod.mk.inj h).1
    rfl

/-! ### Reads -/

/-- A read is scanned, then filtered and then cut to the columns that are kept. -/
lemma lowerRead_eq_ok {read : Read} :
    (c.lowerRead read).runFrom n = (.ok r, k) ↔
      ∃ scan source, (c.scan read.kind).runFrom n = (.ok scan, k) ∧
        c.filtered read.filter scan = .ok source ∧ keepColumns read.projection source = .ok r := by
  rw [lowerRead, runFrom_bind_eq_ok]
  simp only [runFrom_lift_bind_eq_ok, runFrom_lift, Prod.mk.injEq]
  constructor
  · rintro ⟨scan, j, hs, source, hf, hk, rfl⟩
    exact ⟨scan, source, hs, hf, hk⟩
  · rintro ⟨scan, source, hs, hf, hk⟩
    exact ⟨scan, k, hs, source, hf, hk, rfl⟩

/-- Without a condition there is no filter. -/
lemma filtered_eq_ok {filter : Option Expression} {scan : Relation} :
    c.filtered filter scan = .ok r ↔ (filter = none ∧ r = scan) ∨
      ∃ condition e, filter = some condition ∧ condition.lower c.functions = .ok e ∧
        r = .filter scan e := by
  cases filter with
  | none => simp [filtered, eq_comm]
  | some condition =>
    simp only [filtered, map_eq_ok]
    simp [eq_comm]

end LoweringContext

/-- Without a choice of columns there is no projection. -/
lemma keepColumns_eq_ok {fields : List Int32} {scan r : Relation} :
    keepColumns fields scan = .ok r ↔ (fields = [] ∧ r = scan) ∨
      fields ≠ [] ∧ ∃ columns, fields.mapM keptColumn = .ok columns ∧
        r = .project scan columns (placeholderNames columns.length) := by
  cases fields with
  | nil => simp [keepColumns, eq_comm]
  | cons field rest =>
    simp only [keepColumns, List.isEmpty_cons, Bool.false_eq_true, if_false, map_eq_ok]
    simp [eq_comm]

/-- Without a projection on top all columns are kept. -/
lemma LoweringContext.lowerRead_eq_ok_of_ne_project {c : LoweringContext} {read : Read} {n k : Nat}
    {r : Relation} (hr : ∀ source columns labels, r ≠ .project source columns labels) :
    (c.lowerRead read).runFrom n = (.ok r, k) ↔ read.projection = [] ∧
      ∃ scan, (c.scan read.kind).runFrom n = (.ok scan, k) ∧
        c.filtered read.filter scan = .ok r := by
  rw [lowerRead_eq_ok]
  constructor
  · rintro ⟨scan, source, hscan, hf, hk⟩
    rcases keepColumns_eq_ok.mp hk with ⟨hfields, rfl⟩ | ⟨-, columns, -, hproject⟩
    · exact ⟨hfields, scan, hscan, hf⟩
    · exact absurd hproject (hr _ _ _)
  · rintro ⟨hfields, scan, hscan, hf⟩
    exact ⟨scan, r, hscan, hf, keepColumns_eq_ok.mpr (.inl ⟨hfields, rfl⟩)⟩

end PlanImport
