import PlanImport.Engine.Expr
import PlanImport.Lowering.Constant
import PlanImport.Lowering.Functions
import PlanImport.Lowering.NameStream

/-!
# The lowering of expressions

Calls become the engine's operators where there is one for the function and calls of the engine's
function otherwise. A struct becomes one with fields in order, except for one that is an output
column of a projection: it takes the names of its fields from the list of output names if they
are there and differ from each other.
-/

namespace PlanImport.Plan

open Engine

/-! ### References and calls -/

/-- The column that a reference refers to. -/
def FieldReference.column : FieldReference → Except Refusal Expr
  | missing => .error (.reference .missingReference)
  | masked => .error (.reference .masked)
  | missingSegment => .error (.reference .missingSegment)
  | mapKey => .error (.reference .mapKey)
  | listElement => .error (.reference .listElement)
  | structField field hasChild =>
    if hasChild then .error (.reference (.nestedChild field))
    else if field < 0 then .error (.reference (.negativeField field))
    else .ok (.column (field.toInt.toNat + 1))

def dateParts : List String :=
  ["year", "month", "day", "decade", "century", "millennium", "millenium", "quarter",
    "microsecond", "milliseconds", "second", "minute", "hour"]

/-- A text with its ASCII letters in lower case. -/
def lowerCase (s : String) : String := .ofList (s.toList.map Char.toLower)

/-- The part of a date that is chosen: there has to be one choice and it has to be one of the
parts, in either case of letters. -/
def chosenDatePart (options : List String) : Except Refusal String :=
  match options with
  | [part] =>
    if dateParts.contains (lowerCase part) then .ok part else .error (.datePart part)
  | _ => .error (.datePart (", ".intercalate options))

def wrongArity (name : String) (expected : Nat) (args : List Expr) : Refusal :=
  .arity name expected args.length

/-- The comparison that a function stands for. -/
def comparison? : String → Option Comparison
  | "lt" => some .lessThan
  | "lte" => some .lessThanOrEqual
  | "gt" => some .greaterThan
  | "gte" => some .greaterThanOrEqual
  | "equal" => some .equal
  | "is_not_distinct_from" => some .notDistinctFrom
  | _ => none

/-- The operator of one operand that a function stands for. -/
def unary? : String → Option UnaryOperator
  | "not" => some .not
  | "is_null" => some .isNull
  | "is_not_null" => some .isNotNull
  | _ => none

/-- The call of the function of the given name. The inequality with a constant text is spelled as
the pattern that does not match. -/
def callExpr (name : String) (args : List Expr) (options : List String) :
    Except Refusal Expr :=
  match name with
  | "and" => .ok (.conjunction .and args)
  | "or" => .ok (.conjunction .or args)
  | "not_equal" =>
    match args with
    | [left, right] =>
      if left.isTextConstant || right.isTextConstant then .ok (.call "!~~" [left, right] false)
      else .ok (.comparison .notEqual left right)
    | args => .error (wrongArity name 2 args)
  | "between" =>
    match args with
    | [input, lower, upper] => .ok (.between input lower upper)
    | args => .error (wrongArity name 3 args)
  | "extract" => do
    let part ← chosenDatePart options
    return .call (engineName name) (.constant (.varchar part) :: args) false
  | name =>
    match comparison? name, unary? name with
    | some op, _ =>
      match args with
      | [left, right] => .ok (.comparison op left right)
      | args => .error (wrongArity name 2 args)
    | none, some op =>
      match args with
      | [operand] => .ok (.unary op operand)
      | args => .error (wrongArity name 1 args)
    | none, none => .ok (.call (engineName name) args false)

/-! ### Expressions -/

mutual

/-- The engine's expression for an expression of a plan. -/
def Expression.lower (functions : FunctionTable) : Expression → Except Refusal Expr
  | .unset => .error (.absent "expression.rex_type")
  | .literal l => l.value.map .constant
  | .selection reference => reference.column
  | .call anchor arguments => do
    let name ← functions.find anchor
    let (args, options) ← lowerArguments functions arguments
    callExpr (plainName name) args options
  | .ifThen clauses otherwise => do
    let arms ← lowerClauses functions clauses
    return .case arms (← lowerRequired functions "if_then.else" otherwise)
  | .cast target input => do
    let target ← (← required "cast.type" target).sqlType
    return .cast target (← lowerRequired functions "cast.input" input)
  | .inList value options => do
    let value ← lowerRequired functions "singular_or_list.value" value
    return .inList value (← lowerAll functions options)
  | .nestedUnset => .error (.absent "nested.nested_type")
  | .nestedStruct fields => do return .row (← lowerAll functions fields)
  | .nestedList items => do return .list (← lowerAll functions items)
  | .nestedMap [.mk key value] => do
    let key ← lowerRequired functions "map.key" key
    return .map key (← lowerRequired functions "map.value" value)
  | .nestedMap entries => .error (.unimplemented (.mapEntries entries.length))
  | .other kind => .error (.unsupported .expression kind)

def lowerAll (functions : FunctionTable) : List Expression → Except Refusal (List Expr)
  | [] => .ok []
  | e :: rest => do
    let e ← e.lower functions
    return e :: (← lowerAll functions rest)

/-- An expression that must not be absent. -/
def lowerRequired (functions : FunctionTable) (field : String) :
    Option Expression → Except Refusal Expr
  | some e => e.lower functions
  | none => .error (.absent field)

/-- The values and the options among arguments, each in their order. -/
def lowerArguments (functions : FunctionTable) :
    List Argument → Except Refusal (List Expr × List String)
  | [] => .ok ([], [])
  | .unset :: _ => .error (.absent "function_argument.arg_type")
  | .type :: _ => .error (.unimplemented .typeArgument)
  | .option name :: rest => do
    let (args, options) ← lowerArguments functions rest
    return (args, name :: options)
  | .value e :: rest => do
    let e ← e.lower functions
    let (args, options) ← lowerArguments functions rest
    return (e :: args, options)

/-- The arms of a case. -/
def lowerClauses (functions : FunctionTable) :
    List Clause → Except Refusal (List (Expr × Expr))
  | [] => .ok []
  | .mk condition result :: rest => do
    let condition ← lowerRequired functions "if_then.if" condition
    let result ← lowerRequired functions "if_then.then" result
    return (condition, result) :: (← lowerClauses functions rest)

end

/-! ### Output columns -/

/-- An output column of a projection. The name of the column is passed, and so are the names of
its fields if it is a struct that takes them. -/
def Expression.lowerColumn (functions : FunctionTable) (names : NameStream) (e : Expression) :
    Except Refusal Expr × NameStream :=
  let names := names.skip
  match e with
  | .nestedStruct fields =>
    match lowerAll functions fields with
    | .error refusal => (.error refusal, names)
    | .ok fields =>
      if !names.isDone && names.hasDistinct fields.length then
        match names.take? fields.length with
        | some (fieldNames, names) => (.ok (.struct (fieldNames.zip fields)), names)
        | none => (.ok (.row fields), names)
      else (.ok (.row fields), names)
  | e => (e.lower functions, names)

def lowerColumns (functions : FunctionTable) (names : NameStream) :
    List Expression → Except Refusal (List Expr)
  | [] => .ok []
  | e :: rest =>
    match e.lowerColumn functions names with
    | (.error refusal, _) => .error refusal
    | (.ok e, names) => (lowerColumns functions names rest).map (e :: ·)

end PlanImport.Plan
