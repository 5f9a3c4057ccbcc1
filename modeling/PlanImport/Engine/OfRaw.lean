import PlanImport.Engine.Relation
import PlanImport.Json.Fields

/-!
# Engine objects from JSON

Readers for what engine objects are written as. Each is given how many more arrays and objects
may be entered, and recursion is on this number.
-/

namespace PlanImport.Engine

open Json Json.Raw

/-- A choice among constructors without arguments. -/
def constantOfRaw? (table : List (String × α)) (depth : Nat) (v : Raw) : Option α :=
  (v.name? depth).bind fun name => table.lookup name

def SqlType.constants : List (String × SqlType) :=
  [("SqlNull", .sqlNull), ("Unknown", .unknown), ("Boolean", .boolean), ("TinyInt", .tinyInt),
    ("SmallInt", .smallInt), ("Integer", .integer), ("BigInt", .bigInt), ("UBigInt", .uBigInt),
    ("Float", .float), ("Double", .double), ("Date", .date), ("Time", .time),
    ("Timestamp", .timestamp), ("Interval", .interval), ("Varchar", .varchar)]

def SqlType.ofRaw? (depth : Nat) (v : Raw) : Option SqlType :=
  match v.choice? depth with
  | some ("Decimal", some a) => do
    let [some width, some scale] ← a.fields? ["width", "scale"] (depth - 1) | none
    return decimal (.ofNat (← width.nat? 8)) (.ofNat (← scale.nat? 8))
  | some ("List", some a) =>
    if _h : depth = 0 then none else (ofRaw? (depth - 1) a).map list
  | some ("Struct", some a) => do
    if _h : depth = 0 then none
    else
      let fields ← (← a.items? (depth - 1)).mapM fun item => do
        let [name, type] ← item.items? (depth - 2) | none
        return (← name.text?, ← ofRaw? (depth - 3) type)
      return struct fields
  | some ("Map", some a) => do
    if _h : depth = 0 then none
    else
      let [some key, some value] ← a.fields? ["key", "value"] (depth - 1) | none
      return map (← ofRaw? (depth - 2) key) (← ofRaw? (depth - 2) value)
  | _ => constantOfRaw? constants depth v
termination_by depth

def SizedInt.ofRaw? (depth : Nat) (v : Raw) : Option SizedInt :=
  match v.choice? depth with
  | some ("Int8", some a) => (a.signed? 8).map fun n => int8 (.ofInt n)
  | some ("Int16", some a) => (a.signed? 16).map fun n => int16 (.ofInt n)
  | some ("Int32", some a) => (a.signed? 32).map fun n => int32 (.ofInt n)
  | some ("Int64", some a) => (a.signed? 64).map fun n => int64 (.ofInt n)
  | some ("Int128", some a) => a.int128?.map int128
  | _ => none

def Value.ofRaw? (depth : Nat) (v : Raw) : Option Value :=
  match v.choice? depth with
  | some ("Boolean", some a) => a.bool?.map boolean
  | some ("TinyInt", some a) => (a.signed? 8).map fun n => tinyInt (.ofInt n)
  | some ("SmallInt", some a) => (a.signed? 16).map fun n => smallInt (.ofInt n)
  | some ("Integer", some a) => (a.signed? 32).map fun n => integer (.ofInt n)
  | some ("BigInt", some a) => (a.signed? 64).map fun n => bigInt (.ofInt n)
  | some ("UBigInt", some a) => (a.nat? 64).map fun n => uBigInt (.ofNat n)
  | some ("Float", some a) => (a.float? Float.single).map fun bits => float (.ofNat bits)
  | some ("Double", some a) => (a.float? Float.double).map fun bits => double (.ofNat bits)
  | some ("Varchar", some a) => a.text?.map varchar
  | some ("Date", some a) => (a.signed? 32).map fun n => date (.ofInt n)
  | some ("Time", some a) => (a.signed? 64).map fun n => time (.ofInt n)
  | some ("Timestamp", some a) => (a.signed? 64).map fun n => timestamp (.ofInt n)
  | some ("Interval", some a) => do
    let [some months, some days, some micros] ← a.fields? ["months", "days", "micros"] (depth - 1)
      | none
    return interval ⟨.ofInt (← months.signed? 32), .ofInt (← days.signed? 32),
      .ofInt (← micros.signed? 64)⟩
  | some ("Decimal", some a) => do
    let [some storage, some width, some scale] ←
      a.fields? ["storage", "width", "scale"] (depth - 1) | none
    return decimal (← SizedInt.ofRaw? (depth - 2) storage) (.ofNat (← width.nat? 8))
      (.ofNat (← scale.nat? 8))
  | some ("List", some a) => do
    if _h : depth = 0 then none
    else return list (← (← a.items? (depth - 1)).mapM (ofRaw? (depth - 2)))
  | _ => constantOfRaw? [("Null", null)] depth v
termination_by depth

def Connective.ofRaw? : Nat → Raw → Option Connective :=
  constantOfRaw? [("And", and), ("Or", or)]

def Comparison.ofRaw? : Nat → Raw → Option Comparison :=
  constantOfRaw? [("Equal", equal), ("NotEqual", notEqual), ("LessThan", lessThan),
    ("LessThanOrEqual", lessThanOrEqual), ("GreaterThan", greaterThan),
    ("GreaterThanOrEqual", greaterThanOrEqual), ("NotDistinctFrom", notDistinctFrom)]

def UnaryOperator.ofRaw? : Nat → Raw → Option UnaryOperator :=
  constantOfRaw? [("Not", not), ("IsNull", isNull), ("IsNotNull", isNotNull)]

def Expr.ofRaw? (depth : Nat) (v : Raw) : Option Expr := do
  if _h : depth = 0 then none
  else
    let (tag, some a) ← v.choice? depth | none
    let sub := Expr.ofRaw? (depth - 2)
    let subs (v : Raw) : Option (List Expr) := do
      (← v.items? (depth - 2)).mapM (Expr.ofRaw? (depth - 3))
    match tag with
    | "Constant" => return constant (← Value.ofRaw? (depth - 1) a)
    | "ColumnRef" => return column (← a.nat? 64)
    | "Function" =>
      let [some name, some args, some distinct] ←
        a.fields? ["name", "args", "distinct"] (depth - 1) | none
      return call (← name.text?) (← subs args) (← distinct.bool?)
    | "Conjunction" =>
      let [some op, some children] ← a.fields? ["op", "children"] (depth - 1) | none
      return conjunction (← Connective.ofRaw? (depth - 2) op) (← subs children)
    | "Comparison" =>
      let [some op, some left, some right] ← a.fields? ["op", "left", "right"] (depth - 1) | none
      return comparison (← Comparison.ofRaw? (depth - 2) op) (← sub left) (← sub right)
    | "Operator" =>
      let [some op, some operand] ← a.fields? ["op", "operand"] (depth - 1) | none
      return unary (← UnaryOperator.ofRaw? (depth - 2) op) (← sub operand)
    | "Case" =>
      let [some whens, some otherwise] ← a.fields? ["whens", "otherwise"] (depth - 1) | none
      let arms ← (← whens.items? (depth - 2)).mapM fun arm => do
        let [some condition, some result] ← arm.fields? ["when", "then"] (depth - 3) | none
        return (← Expr.ofRaw? (depth - 4) condition, ← Expr.ofRaw? (depth - 4) result)
      return case arms (← sub otherwise)
    | "Cast" =>
      let [some target, some operand] ← a.fields? ["target", "operand"] (depth - 1) | none
      return cast (← SqlType.ofRaw? (depth - 2) target) (← sub operand)
    | "Between" =>
      let [some input, some lower, some upper] ←
        a.fields? ["input", "lower", "upper"] (depth - 1) | none
      return between (← sub input) (← sub lower) (← sub upper)
    | "InList" =>
      let [some value, some options] ← a.fields? ["value", "options"] (depth - 1) | none
      return inList (← sub value) (← subs options)
    | "StructPack" =>
      let fields ← (← a.items? (depth - 1)).mapM fun item => do
        let [name, e] ← item.items? (depth - 2) | none
        return (← name.text?, ← Expr.ofRaw? (depth - 3) e)
      return struct fields
    | "Row" => return row (← (← a.items? (depth - 1)).mapM (Expr.ofRaw? (depth - 2)))
    | "ListValue" =>
      return list (← (← a.items? (depth - 1)).mapM (Expr.ofRaw? (depth - 2)))
    | "Map" =>
      let [some key, some value] ← a.fields? ["key", "value"] (depth - 1) | none
      return map (← sub key) (← sub value)
    | _ => none
termination_by depth

def Column.ofRaw? (depth : Nat) (v : Raw) : Option Column := do
  let [some name, some type] ← v.fields? ["name", "type"] depth | none
  return ⟨← name.text?, ← SqlType.ofRaw? (depth - 1) type⟩

def TableInfo.ofRaw? (depth : Nat) (v : Raw) : Option TableInfo := do
  let [some schema, some name, some columns] ← v.fields? ["schema", "name", "columns"] depth
    | none
  return ⟨← schema.text?, ← name.text?,
    ← (← columns.items? (depth - 1)).mapM (Column.ofRaw? (depth - 2))⟩

def LockMode.ofRaw? : Nat → Raw → Option LockMode :=
  constantOfRaw? [("Acquire", acquire), ("External", external)]

def TargetName.ofRaw? (depth : Nat) (v : Raw) : Option TargetName := do
  let [schema, some name] ← v.fields? ["schema", "name"] depth | none
  return ⟨← optional? text? schema, ← name.text?⟩

def JoinKind.ofRaw? : Nat → Raw → Option JoinKind :=
  constantOfRaw? [("Inner", inner), ("Left", left), ("Right", right), ("Outer", outer),
    ("Semi", semi), ("Single", single)]

def SetOperator.ofRaw? : Nat → Raw → Option SetOperator :=
  constantOfRaw? [("UnionAll", unionAll), ("Except", except), ("Intersect", intersect)]

def SortDirection.ofRaw? : Nat → Raw → Option SortDirection :=
  constantOfRaw? [("Ascending", ascending), ("Descending", descending)]

def NullPlacement.ofRaw? : Nat → Raw → Option NullPlacement :=
  constantOfRaw? [("NullsFirst", first), ("NullsLast", last)]

def SortKey.ofRaw? (depth : Nat) (v : Raw) : Option SortKey := do
  let [some direction, some nulls, some expr] ← v.fields? ["order", "nulls", "expr"] depth | none
  return ⟨← SortDirection.ofRaw? (depth - 1) direction, ← NullPlacement.ofRaw? (depth - 1) nulls,
    ← Expr.ofRaw? (depth - 1) expr⟩

/-- Rows of values or of expressions. -/
def rowsOfRaw? (read : Nat → Raw → Option α) (depth : Nat) (v : Raw) :
    Option (List (List α)) := do
  (← v.items? depth).mapM fun row => do
    (← row.items? (depth - 1)).mapM (read (depth - 2))

def InlineRows.ofRaw? (depth : Nat) (v : Raw) : Option InlineRows :=
  match v.choice? depth with
  | some ("Constants", some a) => (rowsOfRaw? Value.ofRaw? (depth - 1) a).map constants
  | some ("Expressions", some a) => (rowsOfRaw? Expr.ofRaw? (depth - 1) a).map expressions
  | _ => none

def parameterOfRaw? (depth : Nat) (v : Raw) : Option (String × Value) := do
  let [name, value] ← v.items? depth | none
  return (← name.text?, ← Value.ofRaw? (depth - 1) value)

def listOfRaw? (read : Nat → Raw → Option α) (depth : Nat) (v : Raw) :
    Option (List α) := do
  (← v.items? depth).mapM (read (depth - 1))

mutual

def Relation.ofRaw? (depth : Nat) (v : Raw) : Option Relation := do
  if _h : depth = 0 then none
  else
    let (tag, some a) ← v.choice? depth | none
    let d := depth - 2
    let sub := Relation.ofRaw? (depth - 2)
    match tag with
    | "Table" =>
      let [some table, some lock] ← a.fields? ["table", "binding"] (depth - 1) | none
      return .table (← TableInfo.ofRaw? d table) (← LockMode.ofRaw? d lock)
    | "View" =>
      let [some view, some lock] ← a.fields? ["view", "binding"] (depth - 1) | none
      return .view (← TableInfo.ofRaw? d view) (← LockMode.ofRaw? d lock)
    | "TableFunction" =>
      let [some name, some parameters, some namedParameters, some lock] ←
        a.fields? ["name", "parameters", "named_parameters", "binding"] (depth - 1) | none
      return .tableFunction (← name.text?) (← listOfRaw? Value.ofRaw? d parameters)
        (← listOfRaw? parameterOfRaw? d namedParameters)
        (← LockMode.ofRaw? d lock)
    | "Values" =>
      let [some rows, some lock] ← a.fields? ["rows", "binding"] (depth - 1) | none
      return .inline (← InlineRows.ofRaw? d rows) (← LockMode.ofRaw? d lock)
    | "Alias" =>
      let [some name, some input] ← a.fields? ["alias", "input"] (depth - 1) | none
      return .aliased (← name.text?) (← sub input)
    | "Filter" =>
      let [some input, some condition] ← a.fields? ["input", "condition"] (depth - 1) | none
      return .filter (← sub input) (← Expr.ofRaw? d condition)
    | "Project" =>
      let [some input, some expressions, some names] ←
        a.fields? ["input", "expressions", "aliases"] (depth - 1) | none
      return .project (← sub input) (← listOfRaw? Expr.ofRaw? d expressions)
        (← listOfRaw? (fun _ => text?) d names)
    | "Aggregate" =>
      let [some input, some expressions, some groups] ←
        a.fields? ["input", "expressions", "groups"] (depth - 1) | none
      return .aggregate (← sub input) (← listOfRaw? Expr.ofRaw? d expressions)
        (← listOfRaw? Expr.ofRaw? d groups)
    | "Join" =>
      let [some left, some right, some condition, some kind] ←
        a.fields? ["left", "right", "condition", "join_type"] (depth - 1) | none
      return .join (← sub left) (← sub right) (← Expr.ofRaw? d condition)
        (← JoinKind.ofRaw? d kind)
    | "CrossProduct" =>
      let [some left, some right] ← a.fields? ["left", "right"] (depth - 1) | none
      return .product (← sub left) (← sub right)
    | "Limit" =>
      let [some input, limit, some offset] ← a.fields? ["input", "limit", "offset"] (depth - 1)
        | none
      let limit ← optional? (nat? 64) limit
      return .limit (← sub input) (limit.map .ofNat) (.ofNat (← offset.nat? 64))
    | "Order" =>
      let [some input, some keys] ← a.fields? ["input", "orders"] (depth - 1) | none
      return .sort (← sub input) (← listOfRaw? SortKey.ofRaw? d keys)
    | "SetOp" =>
      let [some left, some right, some op] ← a.fields? ["left", "right", "op"] (depth - 1) | none
      return .setOperation (← sub left) (← sub right) (← SetOperator.ofRaw? d op)
    | "Write" =>
      let [some target, some effect] ← a.fields? ["target", "action"] (depth - 1) | none
      return .write (← TargetName.ofRaw? d target) (← WriteEffect.ofRaw? (depth - 2) effect)
    | _ => none
termination_by depth

def WriteEffect.ofRaw? (depth : Nat) (v : Raw) : Option WriteEffect := do
  if _h : depth = 0 then none
  else
    let (tag, some a) ← v.choice? depth | none
    match tag with
    | "CreateTableAs" => return .createTableAs (← Relation.ofRaw? (depth - 1) a)
    | "Insert" => return .insert (← Relation.ofRaw? (depth - 1) a)
    | "Delete" =>
      let [some condition] ← a.fields? ["condition"] (depth - 1) | none
      return .delete (← Expr.ofRaw? (depth - 2) condition)
    | _ => none
termination_by depth

end

end PlanImport.Engine
