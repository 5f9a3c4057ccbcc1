import PlanImport.Engine.Relation
import PlanImport.Proofs.Meaning.Rows

/-!
# The rows of a relation of the engine

A reference evaluator for scans of tables, filters, projections, sorts, limits, products and
unions, over columns, constants, comparisons, connectives and operators of one operand. Everything
else has no value and no rows, and neither has what refers to a column that is not there.
-/

namespace PlanImport.Engine

/-! ### Expressions -/

/-- What a comparison asks of the order of its operands. -/
def Comparison.test : Comparison → Ordering → Bool
  | equal, o => o == .eq
  | notDistinctFrom, o => o == .eq
  | notEqual, o => o != .eq
  | lessThan, o => o == .lt
  | lessThanOrEqual, o => o != .gt
  | greaterThan, o => o == .gt
  | greaterThanOrEqual, o => o != .lt

/-- The value of a connective. What is not true counts as false. -/
def Connective.join : Connective → List Value → Value
  | and, values => .boolean (values.all Value.isTrue)
  | or, values => .boolean (values.any Value.isTrue)

/-- The value of an operator of one operand. -/
def UnaryOperator.apply : UnaryOperator → Value → Value
  | not, v => v.negated
  | isNull, v => .boolean v.isNull
  | isNotNull, v => .boolean !v.isNull

namespace Expr

mutual

def eval (row : Row) : Expr → Option Value
  | constant v => some v
  | column 0 => none
  | column (i + 1) => row[i]?
  | comparison op left right => do Value.compared op.test (← left.eval row) (← right.eval row)
  | conjunction op children => do return op.join (← evalAll row children)
  | unary op operand => do return op.apply (← operand.eval row)
  | _ => none

def evalAll (row : Row) : List Expr → Option (List Value)
  | [] => some []
  | e :: rest => do return (← e.eval row) :: (← evalAll row rest)

end

lemma evalAll_eq_mapM (row : Row) (es : List Expr) : evalAll row es = es.mapM (eval row) := by
  induction es with
  | nil => rfl
  | cons e es ih => rw [evalAll, ih, List.mapM_cons]

end Expr

/-! ### Relations -/

/-- How two rows are ordered by a sort key. -/
def SortKey.order? (k : SortKey) (a b : Row) : Option Ordering := do
  Value.sortOrder? (k.direction = .descending) (k.nulls = .first) (← k.expr.eval a)
    (← k.expr.eval b)

/-- The rows of a relation, given those of the tables. -/
def Relation.rows (tables : TableRows) : Relation → Option (List Row)
  | table info _ => some (tables info.schema info.name)
  | aliased _ input => input.rows tables
  | filter input condition => do
    keptRows? (fun row => condition.eval row) (← input.rows tables)
  | project input expressions _ => do
    (← input.rows tables).mapM fun row => Expr.evalAll row expressions
  | limit input count offset => do
    return pageRows offset.toNat (count.map UInt64.toNat) (← input.rows tables)
  | sort input keys => do sortRows? (lexOrder? (keys.map SortKey.order?)) (← input.rows tables)
  | product left right => do return pairRows (← left.rows tables) (← right.rows tables)
  | setOperation left right .unionAll => do
    return (← left.rows tables) ++ (← right.rows tables)
  | _ => none

end PlanImport.Engine
