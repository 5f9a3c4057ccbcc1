import PlanImport.Engine.Catalog
import PlanImport.Engine.Expr

/-!
# Relations

The relational operators of the engine as a tree. Projections and aggregates define the columns
of their output, joins and products put those of the right input after those of the left one,
and the other operators keep the columns of their input.
-/

namespace PlanImport.Engine

/-- Whether executing a scan takes the lock of the client context. -/
inductive LockMode
  /-- It takes the lock. -/
  | acquire
  /-- The caller holds the lock already. -/
  | external
  deriving DecidableEq, Repr

/-- The mode that takes the lock exactly if asked to. -/
def LockMode.ofFlag (acquireLock : Bool) : LockMode :=
  if acquireLock then acquire else external

/-- The target of a write. -/
structure TargetName where
  schema : Option String
  name : String
  deriving DecidableEq, Repr

/-- The name with the schema in front, if there is one. -/
def TargetName.text (t : TargetName) : String :=
  match t.schema with
  | some schema => qualifiedName schema t.name
  | none => t.name

inductive JoinKind
  | inner
  | left
  | right
  /-- The full outer join. -/
  | outer
  /-- The left rows with a match, without the columns of the right. -/
  | semi
  /-- At most one match for each left row. -/
  | single
  deriving DecidableEq, Repr

def JoinKind.name : JoinKind → String
  | inner => "Inner"
  | left => "Left"
  | right => "Right"
  | outer => "Outer"
  | semi => "Semi"
  | single => "Single"

/-- The operations on sets of rows. -/
inductive SetOperator
  | unionAll
  | except
  | intersect
  deriving DecidableEq, Repr

def SetOperator.name : SetOperator → String
  | unionAll => "UnionAll"
  | except => "Except"
  | intersect => "Intersect"

/-- The direction of a sort key. -/
inductive SortDirection
  | ascending
  | descending
  deriving DecidableEq, Repr

/-- The place of NULL among the other values. -/
inductive NullPlacement
  | first
  | last
  deriving DecidableEq, Repr

structure SortKey where
  direction : SortDirection
  nulls : NullPlacement
  expr : Expr
  deriving Repr

inductive InlineRows
  | constants (rows : List (List Value))
  | expressions (rows : List (List Expr))
  deriving Repr, Inhabited

def InlineRows.length : InlineRows → Nat
  | constants rows => rows.length
  | expressions rows => rows.length

mutual

inductive Relation
  | table (info : TableInfo) (lock : LockMode)
  | view (info : TableInfo) (lock : LockMode)
  /-- A call of a function that produces a table. -/
  | tableFunction (name : String) (parameters : List Value)
      (namedParameters : List (String × Value)) (lock : LockMode)
  | inline (rows : InlineRows) (lock : LockMode)
  /-- The input under another name. -/
  | aliased (name : String) (input : Relation)
  | filter (input : Relation) (condition : Expr)
  | project (input : Relation) (expressions : List Expr) (names : List String)
  /-- The expressions are the output columns: the group keys and then the aggregates. -/
  | aggregate (input : Relation) (expressions groups : List Expr)
  | join (left right : Relation) (condition : Expr) (kind : JoinKind)
  | product (left right : Relation)
  /-- Without a limit all rows after the offset are kept. -/
  | limit (input : Relation) (limit : Option UInt64) (offset : UInt64)
  | sort (input : Relation) (keys : List SortKey)
  | setOperation (left right : Relation) (op : SetOperator)
  | write (target : TargetName) (effect : WriteEffect)

/-- What a write does with its target. -/
inductive WriteEffect
  | createTableAs (input : Relation)
  | insert (input : Relation)
  | delete (condition : Expr)

end

deriving instance Repr for Relation, WriteEffect

namespace Relation

def operator : Relation → String
  | table .. => "Table"
  | view .. => "View"
  | tableFunction .. => "TableFunction"
  | inline .. => "Values"
  | aliased .. => "Alias"
  | filter .. => "Filter"
  | project .. => "Project"
  | aggregate .. => "Aggregate"
  | join .. => "Join"
  | product .. => "CrossProduct"
  | limit .. => "Limit"
  | sort .. => "Order"
  | setOperation .. => "SetOp"
  | write .. => "Write"

/-- The types of the output columns, where they follow from the relation without binding it.
Inline tables have the types of their first row; an input of unknown types counts as one without
columns for the expressions over it. -/
def columnTypes : Relation → Option (List SqlType)
  | table info _ => some info.columnTypes
  | view info _ => some info.columnTypes
  | inline (.constants rows) _ => rows.head?.map Value.types
  | inline (.expressions rows) _ => rows.head?.map (Expr.typesOver [])
  | tableFunction .. => none
  | aliased _ input => input.columnTypes
  | filter input _ => input.columnTypes
  | limit input .. => input.columnTypes
  | sort input _ => input.columnTypes
  | project input expressions _ => some (Expr.typesOver (input.columnTypes.getD []) expressions)
  | aggregate input expressions _ =>
    some (Expr.typesOver (input.columnTypes.getD []) expressions)
  | join left right _ kind =>
    match left.columnTypes with
    | none => none
    | some types =>
      if kind = .semi then some types else right.columnTypes.map (types ++ ·)
  | product left right =>
    match left.columnTypes with
    | none => none
    | some types => right.columnTypes.map (types ++ ·)
  | setOperation .. => none
  | write .. => none

end Relation

end PlanImport.Engine
