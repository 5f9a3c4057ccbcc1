import PlanImport.Engine.SqlType
import PlanImport.Keyed

/-!
# Catalogs

What is known of tables and views: their columns and the types of these. Plans are lowered against
any two lookups. The catalog here keeps each object under its qualified name, the schema and the
name with a point between them, and the latest that is put under a name is what is found there.
-/

namespace PlanImport.Engine

/-- The schema of names without one. -/
def defaultSchema : String := "main"

structure Column where
  name : String
  type : SqlType
  deriving Repr, Inhabited

structure TableInfo where
  schema : String
  name : String
  columns : List Column
  deriving Repr, Inhabited

/-- The qualified name under which an object is kept. -/
def qualifiedName (schema name : String) : String := schema ++ "." ++ name

namespace TableInfo

def columnTypes (t : TableInfo) : List SqlType := t.columns.map (·.type)

def key (t : TableInfo) : String := qualifiedName t.schema t.name

/-- The qualified name and the columns with their types. -/
def text (t : TableInfo) : String :=
  t.key ++ " (" ++ ", ".intercalate (t.columns.map fun c => c.name ++ " " ++ c.type.text) ++ ")"

end TableInfo

/-- Why an object is not found. -/
inductive NotFound
  | table (schema name : String)
  | view (schema name : String)
  deriving DecidableEq, Repr

def NotFound.message : NotFound → String
  | table schema name => "Table '" ++ qualifiedName schema name ++ "' does not exist"
  | view schema name => "View '" ++ qualifiedName schema name ++ "' does not exist"

/-- What a catalog offers, whatever it keeps its objects in: tables and views are looked up by
schema and name. -/
structure Lookups where
  findTable (schema name : String) : Except NotFound TableInfo
  findView (schema name : String) : Except NotFound TableInfo

/-- The tables and views that are known, by qualified name. -/
structure Catalog where
  tables : Keyed String TableInfo
  views : Keyed String TableInfo
  deriving Inhabited

namespace Catalog

def empty : Catalog := ⟨.empty, .empty⟩

/-- Add a table in place of one of the same qualified name. -/
def insertTable (c : Catalog) (t : TableInfo) : Catalog :=
  { c with tables := c.tables.insert t.key t }

/-- Add a view in place of one of the same qualified name. -/
def insertView (c : Catalog) (t : TableInfo) : Catalog :=
  { c with views := c.views.insert t.key t }

/-- The table of the given schema and name. -/
def findTable (c : Catalog) (schema name : String) : Except NotFound TableInfo :=
  match c.tables.get? (qualifiedName schema name) with
  | some t => .ok t
  | none => .error (.table schema name)

/-- The view of the given schema and name. -/
def findView (c : Catalog) (schema name : String) : Except NotFound TableInfo :=
  match c.views.get? (qualifiedName schema name) with
  | some t => .ok t
  | none => .error (.view schema name)

/-- The lookups in a catalog that keeps its objects by qualified name. -/
def lookups (c : Catalog) : Lookups := ⟨c.findTable, c.findView⟩

instance : Coe Catalog Lookups := ⟨lookups⟩

end Catalog

instance : Inhabited Lookups := ⟨Catalog.empty⟩

end PlanImport.Engine
