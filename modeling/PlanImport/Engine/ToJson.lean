import PlanImport.Engine.Relation
import PlanImport.Json.Basic

/-!
# Engine objects as JSON

A constructor without arguments is its name; any other one is an object with its name as the only
key and its arguments as the value: the argument itself if there is one, an object of named
arguments otherwise.
-/

namespace PlanImport.Engine

open Json (Number)

/-- A constructor with its argument. -/
def tagged (name : String) (argument : Json) : Json := .object [(name, argument)]

def jsonInt (n : Int) : Json := .number (.int n)

/-- A value or `null`. -/
def jsonOption (f : α → Json) : Option α → Json
  | some a => f a
  | none => .null

namespace SqlType

mutual

def toJson : SqlType → Json
  | sqlNull => .string "SqlNull"
  | unknown => .string "Unknown"
  | boolean => .string "Boolean"
  | tinyInt => .string "TinyInt"
  | smallInt => .string "SmallInt"
  | integer => .string "Integer"
  | bigInt => .string "BigInt"
  | uBigInt => .string "UBigInt"
  | float => .string "Float"
  | double => .string "Double"
  | decimal width scale =>
    tagged "Decimal" (.object [("width", jsonInt width.toNat), ("scale", jsonInt scale.toNat)])
  | date => .string "Date"
  | time => .string "Time"
  | timestamp => .string "Timestamp"
  | interval => .string "Interval"
  | varchar => .string "Varchar"
  | list element => tagged "List" element.toJson
  | struct fields => tagged "Struct" (.array (fieldsToJson fields))
  | map key value => tagged "Map" (.object [("key", key.toJson), ("value", value.toJson)])

def fieldsToJson : List (String × SqlType) → List Json
  | [] => []
  | (name, type) :: rest => .array [.string name, type.toJson] :: fieldsToJson rest

end

end SqlType

def SizedInt.toJson : SizedInt → Json
  | int8 n => tagged "Int8" (jsonInt n.toInt)
  | int16 n => tagged "Int16" (jsonInt n.toInt)
  | int32 n => tagged "Int32" (jsonInt n.toInt)
  | int64 n => tagged "Int64" (jsonInt n.toInt)
  | int128 n => tagged "Int128" (jsonInt n.toInt)

namespace Value

mutual

def toJson : Value → Json
  | null => .string "Null"
  | boolean b => tagged "Boolean" (.bool b)
  | tinyInt n => tagged "TinyInt" (jsonInt n.toInt)
  | smallInt n => tagged "SmallInt" (jsonInt n.toInt)
  | integer n => tagged "Integer" (jsonInt n.toInt)
  | bigInt n => tagged "BigInt" (jsonInt n.toInt)
  | uBigInt n => tagged "UBigInt" (jsonInt n.toNat)
  | float bits => tagged "Float" (.number (.single bits))
  | double bits => tagged "Double" (.number (.double bits))
  | varchar s => tagged "Varchar" (.string s)
  | date days => tagged "Date" (jsonInt days.toInt)
  | time micros => tagged "Time" (jsonInt micros.toInt)
  | timestamp micros => tagged "Timestamp" (jsonInt micros.toInt)
  | interval i => tagged "Interval" (.object [("months", jsonInt i.months.toInt),
      ("days", jsonInt i.days.toInt), ("micros", jsonInt i.micros.toInt)])
  | decimal storage width scale => tagged "Decimal" (.object [("storage", storage.toJson),
      ("width", jsonInt width.toNat), ("scale", jsonInt scale.toNat)])
  | list items => tagged "List" (.array (listToJson items))

def listToJson : List Value → List Json
  | [] => []
  | v :: rest => v.toJson :: listToJson rest

end

end Value

def Connective.toJson : Connective → Json
  | and => .string "And"
  | or => .string "Or"

def Comparison.toJson : Comparison → Json
  | equal => .string "Equal"
  | notEqual => .string "NotEqual"
  | lessThan => .string "LessThan"
  | lessThanOrEqual => .string "LessThanOrEqual"
  | greaterThan => .string "GreaterThan"
  | greaterThanOrEqual => .string "GreaterThanOrEqual"
  | notDistinctFrom => .string "NotDistinctFrom"

def UnaryOperator.toJson : UnaryOperator → Json
  | not => .string "Not"
  | isNull => .string "IsNull"
  | isNotNull => .string "IsNotNull"

namespace Expr

mutual

def toJson : Expr → Json
  | constant v => tagged "Constant" v.toJson
  | column position => tagged "ColumnRef" (jsonInt position)
  | call name args distinct => tagged "Function" (.object [("name", .string name),
      ("args", .array (listToJson args)), ("distinct", .bool distinct)])
  | conjunction op children => tagged "Conjunction" (.object [("op", op.toJson),
      ("children", .array (listToJson children))])
  | comparison op left right => tagged "Comparison" (.object [("op", op.toJson),
      ("left", left.toJson), ("right", right.toJson)])
  | unary op operand => tagged "Operator" (.object [("op", op.toJson),
      ("operand", operand.toJson)])
  | case arms otherwise => tagged "Case" (.object [("whens", .array (armsToJson arms)),
      ("otherwise", otherwise.toJson)])
  | cast target operand => tagged "Cast" (.object [("target", target.toJson),
      ("operand", operand.toJson)])
  | between input lower upper => tagged "Between" (.object [("input", input.toJson),
      ("lower", lower.toJson), ("upper", upper.toJson)])
  | inList value options => tagged "InList" (.object [("value", value.toJson),
      ("options", .array (listToJson options))])
  | struct fields => tagged "StructPack" (.array (fieldsToJson fields))
  | row fields => tagged "Row" (.array (listToJson fields))
  | list items => tagged "ListValue" (.array (listToJson items))
  | map key value => tagged "Map" (.object [("key", key.toJson), ("value", value.toJson)])

def listToJson : List Expr → List Json
  | [] => []
  | e :: rest => e.toJson :: listToJson rest

def armsToJson : List (Expr × Expr) → List Json
  | [] => []
  | (condition, result) :: rest =>
    .object [("when", condition.toJson), ("then", result.toJson)] :: armsToJson rest

def fieldsToJson : List (String × Expr) → List Json
  | [] => []
  | (name, e) :: rest => .array [.string name, e.toJson] :: fieldsToJson rest

end

end Expr

def Column.toJson (c : Column) : Json :=
  .object [("name", .string c.name), ("type", c.type.toJson)]

def TableInfo.toJson (t : TableInfo) : Json :=
  .object [("schema", .string t.schema), ("name", .string t.name),
    ("columns", .array (t.columns.map Column.toJson))]

def LockMode.toJson : LockMode → Json
  | acquire => .string "Acquire"
  | external => .string "External"

def TargetName.toJson (t : TargetName) : Json :=
  .object [("schema", jsonOption .string t.schema), ("name", .string t.name)]

def JoinKind.toJson (t : JoinKind) : Json := .string t.name

def SetOperator.toJson (t : SetOperator) : Json := .string t.name

def SortDirection.toJson : SortDirection → Json
  | ascending => .string "Ascending"
  | descending => .string "Descending"

def NullPlacement.toJson : NullPlacement → Json
  | first => .string "NullsFirst"
  | last => .string "NullsLast"

def SortKey.toJson (k : SortKey) : Json :=
  .object [("order", k.direction.toJson), ("nulls", k.nulls.toJson), ("expr", k.expr.toJson)]

def InlineRows.toJson : InlineRows → Json
  | constants rows => tagged "Constants" (.array (rows.map fun r => .array (Value.listToJson r)))
  | expressions rows =>
    tagged "Expressions" (.array (rows.map fun r => .array (Expr.listToJson r)))

def parameterToJson : String × Value → Json
  | (name, v) => .array [.string name, v.toJson]

mutual

def Relation.toJson : Relation → Json
  | .table info lock => tagged "Table" (.object [("table", info.toJson),
      ("binding", lock.toJson)])
  | .view info lock => tagged "View" (.object [("view", info.toJson),
      ("binding", lock.toJson)])
  | .tableFunction name parameters namedParameters lock =>
    tagged "TableFunction" (.object [("name", .string name),
      ("parameters", .array (Value.listToJson parameters)),
      ("named_parameters", .array (namedParameters.map parameterToJson)),
      ("binding", lock.toJson)])
  | .inline rows lock => tagged "Values" (.object [("rows", rows.toJson),
      ("binding", lock.toJson)])
  | .aliased name input => tagged "Alias" (.object [("alias", .string name),
      ("input", input.toJson)])
  | .filter input condition => tagged "Filter" (.object [("input", input.toJson),
      ("condition", condition.toJson)])
  | .project input expressions names => tagged "Project" (.object [("input", input.toJson),
      ("expressions", .array (Expr.listToJson expressions)),
      ("aliases", .array (names.map .string))])
  | .aggregate input expressions groups => tagged "Aggregate" (.object [("input", input.toJson),
      ("expressions", .array (Expr.listToJson expressions)),
      ("groups", .array (Expr.listToJson groups))])
  | .join left right condition kind => tagged "Join" (.object [("left", left.toJson),
      ("right", right.toJson), ("condition", condition.toJson), ("join_type", kind.toJson)])
  | .product left right => tagged "CrossProduct" (.object [("left", left.toJson),
      ("right", right.toJson)])
  | .limit input limit offset => tagged "Limit" (.object [("input", input.toJson),
      ("limit", jsonOption (fun n => jsonInt n.toNat) limit), ("offset", jsonInt offset.toNat)])
  | .sort input keys => tagged "Order" (.object [("input", input.toJson),
      ("orders", .array (keys.map SortKey.toJson))])
  | .setOperation left right op => tagged "SetOp" (.object [("left", left.toJson),
      ("right", right.toJson), ("op", op.toJson)])
  | .write target effect => tagged "Write" (.object [("target", target.toJson),
      ("action", effect.toJson)])

def WriteEffect.toJson : WriteEffect → Json
  | .createTableAs input => tagged "CreateTableAs" input.toJson
  | .insert input => tagged "Insert" input.toJson
  | .delete condition => tagged "Delete" (.object [("condition", condition.toJson)])

end

end PlanImport.Engine
