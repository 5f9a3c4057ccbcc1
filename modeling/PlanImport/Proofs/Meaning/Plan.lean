import PlanImport.Proofs.Meaning.Rows
import PlanImport.Proofs.Writes.Delete

/-!
# The rows of a relation of a plan

What a relation of a plan says by itself, for a core of the kinds of relations and expressions:
reads of tables that are known, filters, projections, sorts, fetches, products and unions, over
fields, literals, comparisons, connectives and tests for NULL.
-/

namespace PlanImport

open Engine Plan

namespace Plan

/-! ### Expressions -/

def coreFunctions : List String :=
  ["lt", "lte", "gt", "gte", "equal", "not_equal", "and", "or", "not", "is_null", "is_not_null"]

/-- The value of a function of the core. -/
def applyFunction : String → List Value → Option Value
  | "lt", [x, y] => Value.compared Ordering.isLT x y
  | "lte", [x, y] => Value.compared Ordering.isLE x y
  | "gt", [x, y] => Value.compared Ordering.isGT x y
  | "gte", [x, y] => Value.compared Ordering.isGE x y
  | "equal", [x, y] => Value.compared Ordering.isEq x y
  | "not_equal", [x, y] => Value.compared Ordering.isNe x y
  | "and", values => some (.boolean (values.all Value.isTrue))
  | "or", values => some (.boolean (values.any Value.isTrue))
  | "not", [x] => some x.negated
  | "is_null", [x] => some (.boolean x.isNull)
  | "is_not_null", [x] => some (.boolean !x.isNull)
  | _, _ => none

/-- The value in a field of a row, by its position from zero. -/
def fieldOf? (row : Row) (field : Int32) : Option Value :=
  if field < 0 then none else row[field.toInt.toNat]?

mutual

def Expression.eval (functions : FunctionTable) (row : Row) : Expression → Option Value
  | .literal l => l.value.toOption
  | .selection (.structField field false) => fieldOf? row field
  | .call anchor arguments => do
    applyFunction (plainName (← functions.get? anchor)) (← evalArguments functions row arguments)
  | _ => none

/-- The values among arguments; options are passed over. -/
def evalArguments (functions : FunctionTable) (row : Row) : List Argument → Option (List Value)
  | [] => some []
  | .value e :: rest => do return (← e.eval functions row) :: (← evalArguments functions row rest)
  | .option _ :: rest => evalArguments functions row rest
  | _ => none

end

def Argument.isText : Argument → Bool
  | .value (.literal ⟨.string _, _⟩) => true
  | _ => false

mutual

/-- Whether an expression is built from fields, literals and calls of functions of the core. The
inequality must not have a constant text for an operand. -/
def Expression.isCore (functions : FunctionTable) : Expression → Bool
  | .literal _ => true
  | .selection (.structField _ hasChild) => !hasChild
  | .call anchor arguments =>
    match functions.get? anchor with
    | some name =>
      coreFunctions.contains (plainName name) && argumentsAreCore functions arguments &&
        !(plainName name = "not_equal" && arguments.any Argument.isText)
    | none => false
  | _ => false

def argumentsAreCore (functions : FunctionTable) : List Argument → Bool
  | [] => true
  | .value e :: rest => e.isCore functions && argumentsAreCore functions rest
  | _ :: rest => argumentsAreCore functions rest

end

/-! ### Sort keys -/

/-- How two rows are ordered by a sort key. The directions are numbered: 1 and 2 are ascending, 3
and 4 descending, with NULL in front for the odd and behind for the even ones. -/
def SortField.order? (functions : FunctionTable) (f : SortField) (a b : Row) : Option Ordering :=
  match f.kind, f.expr with
  | .direction number, some e => do
    Value.sortOrder? (number = 3 ∨ number = 4) (number = 1 ∨ number = 3) (← e.eval functions a)
      (← e.eval functions b)
  | _, _ => none

/-- Whether a sort key has one of the directions and an expression of the core. -/
def SortField.isCore (functions : FunctionTable) (f : SortField) : Bool :=
  match f.kind, f.expr with
  | .direction number, some e => [1, 2, 3, 4].contains number && e.isCore functions
  | _, _ => false

end Plan

/-! ### Relations -/

namespace LoweringContext

def namedTable? (c : LoweringContext) (parts : List String) : Option TableInfo :=
  (c.tableName? parts).bind fun (schema, name) => (c.catalog.findTable schema name).toOption

/-- The rows that meet the filter, if there is one. -/
def filteredRows? (c : LoweringContext) (filter : Option Expression) (rows : List Row) :
    Option (List Row) :=
  match filter with
  | some condition => keptRows? (fun row => condition.eval c.functions row) rows
  | none => some rows

/-- The rows cut to the fields that are kept; all are kept if none is named. -/
def cutRows? (fields : List Int32) (rows : List Row) : Option (List Row) :=
  if fields.isEmpty then some rows else rows.mapM fun row => fields.mapM (fieldOf? row)

/-- The rows of a read: those of the table that meet the filter, cut to the fields that are
kept. -/
def readRows (c : LoweringContext) (tables : TableRows) (read : Read) : Option (List Row) :=
  match read.kind with
  | .namedTable parts => do
    let table ← c.namedTable? parts
    cutRows? read.projection (← c.filteredRows? read.filter (tables table.schema table.name))
  | _ => none

mutual

/-- The rows of a relation, given those of the tables. -/
def relRows (c : LoweringContext) (tables : TableRows) : Rel → Option (List Row)
  | .read read => c.readRows tables read
  | .filter input (some condition) => do
    keptRows? (fun row => condition.eval c.functions row) (← c.inputRows tables input)
  | .project input expressions => do
    (← c.inputRows tables input).mapM fun row => expressions.mapM (Expression.eval c.functions row)
  | .sort input sorts => do
    sortRows? (lexOrder? (sorts.map (SortField.order? c.functions))) (← c.inputRows tables input)
  | .fetch input offset count => do
    return pageRows offset.toInt.toNat (if count = -1 then none else some count.toInt.toNat)
      (← c.inputRows tables input)
  | .cross left right => do
    return pairRows (← c.inputRows tables left) (← c.inputRows tables right)
  | .set inputs op => if op = 6 then c.unionRows tables inputs else none
  | _ => none

/-- The rows of an input that must not be absent. -/
def inputRows (c : LoweringContext) (tables : TableRows) : Option Rel → Option (List Row)
  | some rel => c.relRows tables rel
  | none => none

/-- The rows of relations, one after the other. -/
def unionRows (c : LoweringContext) (tables : TableRows) : List Rel → Option (List Row)
  | [] => some []
  | rel :: rest => do return (← c.relRows tables rel) ++ (← c.unionRows tables rest)

end

/-- Whether a read is of a table that is known. -/
def readIsCore (c : LoweringContext) (read : Read) : Bool :=
  match read.kind with
  | .namedTable parts =>
    (c.namedTable? parts).isSome && read.filter.all (Expression.isCore c.functions)
  | _ => false

mutual

/-- Whether a relation is built from the kinds of the core. -/
def relIsCore (c : LoweringContext) : Rel → Bool
  | .read read => c.readIsCore read
  | .filter input condition => c.inputIsCore input && condition.all (Expression.isCore c.functions)
  | .project input expressions =>
    c.inputIsCore input && expressions.all (Expression.isCore c.functions)
  | .sort input sorts => c.inputIsCore input && sorts.all (SortField.isCore c.functions)
  | .fetch input _ _ => c.inputIsCore input
  | .cross left right => c.inputIsCore left && c.inputIsCore right
  | .set inputs op => op = 6 && c.relsAreCore inputs
  | _ => false

def inputIsCore (c : LoweringContext) : Option Rel → Bool
  | some rel => c.relIsCore rel
  | none => true

def relsAreCore (c : LoweringContext) : List Rel → Bool
  | [] => true
  | rel :: rest => c.relIsCore rel && c.relsAreCore rest

end

end LoweringContext

end PlanImport
