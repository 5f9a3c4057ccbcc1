import PlanImport.Lowering.Context
import PlanImport.Lowering.Expression
import PlanImport.Text.Blank

/-!
# The lowering of reads

A read is a scan of a table, of files or of rows in the plan itself, with a filter on top of it if
there is one, and on top of that a projection if only some columns are kept.
-/

namespace PlanImport

open Engine Plan
open Lowering (lift scanName)

namespace LoweringContext

/-! ### Tables -/

/-- The table of the given name, or else the view. If there is neither, the table is missing. -/
def scanNamed (c : LoweringContext) (schema name : String) : Except Refusal Relation :=
  match c.catalog.findTable schema name with
  | .ok table => .ok (.table table c.lockMode)
  | .error error =>
    match c.catalog.findView schema name with
    | .ok view => .ok (.view view c.lockMode)
    | .error _ => .error (.catalog error)

/-- The table of a name of one or two parts. -/
def scanTable (c : LoweringContext) : List String → Except Refusal Relation
  | [name] => c.scanNamed c.defaultSchema name
  | [schema, name] => c.scanNamed schema name
  | [] => .error (.input .unnamedTable)
  | names => .error (.input (.tooManyNames names))

end LoweringContext

/-! ### Files -/

/-- The path of a file that can be scanned. -/
def Plan.FileItem.parquetPath (f : FileItem) : Except Refusal Value :=
  if !f.isParquet then .error (.unimplemented .fileFormat)
  else match f.path with
    | .uriPath path => .ok (.varchar path)
    | .uriFile path => .ok (.varchar path)
    | .other => .error (.unimplemented .filePath)

def LoweringContext.scanFiles (c : LoweringContext) (items : List FileItem) :
    Lowering Relation := do
  if items.isEmpty then throw (.input .noFiles)
  let paths ← lift (items.mapM FileItem.parquetPath)
  let scan := Relation.tableFunction "parquet_scan" [.list paths]
    [("binary_as_string", .boolean false)] c.lockMode
  return .aliased (← scanName "parquet") scan

/-- The number of a snapshot, which is positive and not the greatest integer of 64 bits. -/
def snapshotNumber? (text : String) : Option UInt64 :=
  match IntText.readInt64 (Text.trim text.toList) with
  | .ok id =>
    if 0 < id.toInt ∧ id.toInt < 0x7fffffffffffffff then some (.ofNat id.toInt.toNat) else none
  | .error _ => none

def Plan.Snapshot.parameter : Snapshot → Except Refusal Value
  | id text =>
    match snapshotNumber? text with
    | some n => .ok (.uBigInt n)
    | none => .error (.input (.snapshotId text))
  | timestamp micros => .ok (.timestamp micros)

/-- A scan of a table by its metadata file. -/
def LoweringContext.scanMetadata (c : LoweringContext) (file : Option MetadataFile) :
    Lowering Relation := do
  let file ← lift (required "iceberg_table.direct" file)
  if file.uri.isEmpty then throw (.input .noMetadataFile)
  let snapshot ← lift (file.snapshot.toList.mapM Snapshot.parameter)
  let scan := Relation.tableFunction "iceberg_scan" (.varchar file.uri :: snapshot) [] c.lockMode
  return .aliased (← scanName "iceberg") scan

/-! ### Reads -/

def keptColumn (field : Int32) : Except Refusal Expr :=
  if field < 0 then .error (.reference (.negativeProjectedField field))
  else .ok (.column (field.toInt.toNat + 1))

/-- Put a projection to the columns that are kept on a scan, unless all are. -/
def keepColumns (fields : List Int32) (scan : Relation) : Except Refusal Relation :=
  if fields.isEmpty then .ok scan
  else (fields.mapM keptColumn).map fun columns =>
    .project scan columns (placeholderNames columns.length)

namespace LoweringContext

/-- An inline table. Its rows of expressions only count if there are none of literals. -/
def scanInline (c : LoweringContext) (values : List (List Literal))
    (expressions : List (List Expression)) : Except Refusal Relation :=
  if values.isEmpty then do
    let rows ← expressions.mapM (lowerAll c.functions)
    return .inline (.expressions rows) c.lockMode
  else do
    let rows ← values.mapM fun row => row.mapM Literal.value
    return .inline (.constants rows) c.lockMode

def scan (c : LoweringContext) : ReadKind → Lowering Relation
  | .unset => throw (.absent "read.read_type")
  | .namedTable names => lift (c.scanTable names)
  | .localFiles items => c.scanFiles items
  | .virtualTable values expressions => lift (c.scanInline values expressions)
  | .icebergTable file => c.scanMetadata file
  | .extensionTable => throw (.unsupported .relation "read.extension_table")

/-- Put a filter on a scan, if there is one. -/
def filtered (c : LoweringContext) (filter : Option Expression) (scan : Relation) :
    Except Refusal Relation :=
  match filter with
  | some condition => (condition.lower c.functions).map (Relation.filter scan)
  | none => .ok scan

def lowerRead (c : LoweringContext) (read : Read) : Lowering Relation := do
  let scan ← c.scan read.kind
  let filtered ← lift (c.filtered read.filter scan)
  lift (keepColumns read.projection filtered)

end LoweringContext

end PlanImport
