import PlanImport.Lowering.Read

/-!
# The lowering of relations

Each relation of a plan becomes one of the engine's. The names of the output columns are handed
down through the relations that keep the columns of their input, until they reach a projection.
-/

namespace PlanImport

open Engine Plan
open Lowering (lift)

/-! ### Numbers of choices -/

def joinKind (number : Int32) : Except Refusal JoinKind :=
  if number = 1 then .ok .inner
  else if number = 2 then .ok .outer
  else if number = 3 then .ok .left
  else if number = 4 then .ok .right
  else if number = 5 then .ok .semi
  else if number = 7 then .ok .single
  else .error (.unknownNumber .join number)

def setOperator (number : Int32) : Except Refusal SetOperator :=
  if number = 1 then .ok .except
  else if number = 3 then .ok .intersect
  else if number = 6 then .ok .unionAll
  else .error (.unknownNumber .setOperation number)

/-- The direction of a sort key and the place of NULL in it, of the given number. -/
def sortDirection (number : Int32) : Except Refusal (SortDirection × NullPlacement) :=
  if number = 1 then .ok (.ascending, .first)
  else if number = 2 then .ok (.ascending, .last)
  else if number = 3 then .ok (.descending, .first)
  else if number = 4 then .ok (.descending, .last)
  else .error (.unknownNumber .sortDirection number)

/-- The limit and the offset of a fetch, neither of which may be negative. -/
def fetchBounds (offset count : Int64) : Except Refusal (Option UInt64 × UInt64) :=
  if count ≠ -1 ∧ count < 0 then .error (.input (.negativeCount count))
  else if offset < 0 then .error (.input (.negativeOffset offset))
  else .ok (if count = -1 then none else some count.toUInt64, offset.toUInt64)

/-! ### Writes -/

/-- The target of a write: the first part of a name of several is the schema and the last one the
name. -/
def Plan.WriteTarget.name : WriteTarget → Except Refusal TargetName
  | unset => .error (.absent "write.write_type")
  | extensionTable => .error (.unimplemented .extensionTarget)
  | namedTable names =>
    match names.getLast? with
    | none => .error (.input .unnamedTarget)
    | some name =>
      match names with
      | schema :: _ :: _ => .ok ⟨some schema, name⟩
      | _ => .ok ⟨none, name⟩

/-- What a write of the given number does with its input. Only filtered tables can be deleted
from. -/
def writeEffect (number : Int32) (input : Relation) : Except Refusal WriteEffect :=
  if number = 4 then .ok (.createTableAs input)
  else if number = 1 then .ok (.insert input)
  else if number = 2 then
    match input with
    | .filter (.table ..) condition => .ok (.delete condition)
    | other => .error (.unimplemented (.deleteOver other.operator))
  else .error (.unknownNumber .write number)

namespace LoweringContext

/-! ### Sort keys, aggregates and projections -/

/-- A sort key. Its direction is looked at first. -/
def lowerSortField (c : LoweringContext) (f : SortField) : Except Refusal SortKey := do
  let (direction, nulls) ← match f.kind with
    | .direction number => sortDirection number
    | .comparisonFunction _ => .error (.unimplemented .comparisonFunction)
    | .unset => .error (.unknownNumber .sortDirection 0)
  let expr ← lowerRequired c.functions "sort_field.expr" f.expr
  return { direction, nulls, expr }

/-- An argument of an aggregate function, which has to be a value. -/
def lowerAggregateArgument (c : LoweringContext) : Argument → Except Refusal Expr
  | .value e => e.lower c.functions
  | .unset => .error (.absent "function_argument.arg_type")
  | _ => .error (.unimplemented .aggregateArgument)

/-- A measure. Counting without arguments counts rows. -/
def lowerMeasure (c : LoweringContext) (measure : Option AggregateFunction) :
    Except Refusal Expr := do
  let f ← required "measure.measure" measure
  let args ← f.arguments.mapM c.lowerAggregateArgument
  let declared := plainName (← c.functions.find f.anchor)
  let name := if declared = "count" ∧ args.isEmpty then "count_star" else engineName declared
  return .call name args (f.invocation = 2)

/-- The group keys of at most one grouping set. -/
def lowerGroups (c : LoweringContext) (groupings : List (List Expression)) :
    Except Refusal (List Expr) :=
  if 1 < groupings.length then .error (.unimplemented (.groupingSets groupings.length))
  else lowerAll c.functions groupings.flatten

/-- The output columns of a projection, with the names of output columns if they are known. -/
def lowerProjected (c : LoweringContext) (names : Option (List String))
    (expressions : List Expression) : Except Refusal (List Expr) :=
  match names with
  | some names => lowerColumns c.functions (.ofList names) expressions
  | none => lowerAll c.functions expressions

/-! ### Relations -/

mutual

/-- The engine's relation for a relation of a plan. The names are those of the output columns, if
it is known that they are those of this relation. -/
def lowerRel (c : LoweringContext) : Rel → Option (List String) → Lowering Relation
  | .unset, _ => throw (.absent "rel.rel_type")
  | .read read, _ => c.lowerRead read
  | .filter input condition, _ => do
    let input ← c.lowerInput "filter.input" input none
    let condition ← lift (lowerRequired c.functions "filter.condition" condition)
    return .filter input condition
  | .fetch input offset count, names => do
    let (limit, offset) ← lift (fetchBounds offset count)
    let input ← c.lowerInput "fetch.input" input names
    return .limit input limit offset
  | .aggregate input groupings measures, _ => do
    let groups ← lift (c.lowerGroups groupings)
    let measures ← lift (measures.mapM c.lowerMeasure)
    let input ← c.lowerInput "aggregate.input" input none
    return .aggregate input (groups ++ measures) groups
  | .sort input sorts, names => do
    let keys ← lift (sorts.mapM c.lowerSortField)
    let input ← c.lowerInput "sort.input" input names
    return .sort input keys
  | .join left right condition type, _ => do
    let kind ← lift (joinKind type)
    let condition ← lift (lowerRequired c.functions "join.expression" condition)
    let left ← c.lowerInput "join.left" left none
    let right ← c.lowerInput "join.right" right none
    return .join (.aliased "left" left) (.aliased "right" right) condition kind
  | .cross left right, _ => do
    let left ← c.lowerInput "cross.left" left none
    let right ← c.lowerInput "cross.right" right none
    return .product (.aliased "left" left) (.aliased "right" right)
  | .project input expressions, names => do
    let expressions ← lift (c.lowerProjected names expressions)
    let input ← c.lowerInput "project.input" input none
    return .project input expressions (placeholderNames expressions.length)
  | .set inputs op, names => do
    let op ← lift (setOperator op)
    match inputs with
    | [left, right] =>
      let left ← c.lowerRel left none
      let right ← c.lowerRel right names
      return .setOperation left right op
    | inputs => throw (.inputCount inputs.length)
  | .write target op input, _ => do
    let target ← lift target.name
    let input ← c.lowerInput "write.input" input none
    let effect ← lift (writeEffect op input)
    return .write target effect
  | .other kind, _ => throw (.unsupported .relation kind)

/-- An input that must not be absent. -/
def lowerInput (c : LoweringContext) (field : String) :
    Option Rel → Option (List String) → Lowering Relation
  | some rel, names => c.lowerRel rel names
  | none, _ => throw (.absent field)

end

end LoweringContext

end PlanImport
