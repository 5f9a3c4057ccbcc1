import PlanImport.Plan.Expression

/-!
# Plans

The relations of a plan and the plan itself: declarations of functions, and relations of which a
root also lists the names of its output columns. Numbers of enumerations are kept as they are,
since a plan may hold any number.
-/

namespace PlanImport.Plan

/-- The file of a scan. -/
inductive FilePath
  | uriPath (path : String)
  | uriFile (path : String)
  /-- No path, or one of many files. -/
  | other
  deriving DecidableEq, Repr, Inhabited

/-- One of the files of a scan. -/
structure FileItem where
  path : FilePath
  /-- Whether the file is in the Parquet format. -/
  isParquet : Bool
  deriving DecidableEq, Repr, Inhabited

/-- The state of a table at which it is read. -/
inductive Snapshot
  | id (text : String)
  /-- Microseconds since 1970-01-01. -/
  | timestamp (micros : Int64)
  deriving DecidableEq, Repr, Inhabited

structure MetadataFile where
  uri : String
  snapshot : Option Snapshot
  deriving DecidableEq, Repr, Inhabited

/-- What a read reads. -/
inductive ReadKind
  /-- No kind is given. -/
  | unset
  | namedTable (names : List String)
  | localFiles (items : List FileItem)
  /-- Rows of literals and rows of expressions; the latter only count if there are none of the
  former. -/
  | virtualTable (values : List (List Literal)) (expressions : List (List Expression))
  | icebergTable (file : Option MetadataFile)
  | extensionTable
  deriving Inhabited

structure Read where
  kind : ReadKind
  filter : Option Expression
  /-- The positions from zero of the columns that are kept; all columns if there is none. -/
  projection : List Int32
  deriving Inhabited

structure AggregateFunction where
  anchor : UInt32
  invocation : Int32
  arguments : List Argument
  deriving Inhabited

/-- How a sort key orders. -/
inductive SortKind
  /-- No kind is given. -/
  | unset
  | direction (number : Int32)
  | comparisonFunction (anchor : UInt32)
  deriving DecidableEq, Repr, Inhabited

structure SortField where
  expr : Option Expression
  kind : SortKind
  deriving Inhabited

inductive WriteTarget
  /-- No kind is given. -/
  | unset
  | namedTable (names : List String)
  | extensionTable
  deriving DecidableEq, Repr, Inhabited

inductive Rel
  /-- No kind is given. -/
  | unset
  | read (read : Read)
  | filter (input : Option Rel) (condition : Option Expression)
  /-- A count of -1 stands for no limit. -/
  | fetch (input : Option Rel) (offset count : Int64)
  | aggregate (input : Option Rel) (groupings : List (List Expression))
      (measures : List (Option AggregateFunction))
  | sort (input : Option Rel) (sorts : List SortField)
  | join (left right : Option Rel) (condition : Option Expression) (type : Int32)
  | cross (left right : Option Rel)
  | project (input : Option Rel) (expressions : List Expression)
  | set (inputs : List Rel) (op : Int32)
  | write (target : WriteTarget) (op : Int32) (input : Option Rel)
  /-- A kind without a counterpart in the engine, by its name. -/
  | other (kind : String)
  deriving Inhabited

/-- A relation with the names of its output columns: each column's name is followed by the names
nested in its type. -/
structure Root where
  input : Option Rel
  names : List String
  deriving Inhabited

inductive PlanRel
  /-- No kind is given. -/
  | unset
  | rel (rel : Rel)
  | root (root : Root)
  deriving Inhabited

/-- A declaration of an extension. -/
inductive Declaration
  /-- No kind is given, or it is that of a type. -/
  | other
  | function (uriReference anchor : UInt32) (name : String)
  deriving DecidableEq, Repr, Inhabited

/-- The file in which extensions are defined. -/
structure ExtensionUri where
  anchor : UInt32
  uri : String
  deriving DecidableEq, Repr, Inhabited

/-- The version of the format, and who wrote the plan. -/
structure Version where
  major : UInt32
  minor : UInt32
  patch : UInt32
  gitHash : String
  producer : String
  deriving DecidableEq, Repr, Inhabited

end PlanImport.Plan

namespace PlanImport

structure Plan where
  extensionUris : List Plan.ExtensionUri
  extensions : List Plan.Declaration
  relations : List Plan.PlanRel
  version : Option Plan.Version
  deriving Inhabited

end PlanImport
