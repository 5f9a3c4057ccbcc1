import PlanImport.Engine.Value

/-!
# Expressions

The scalar expressions of the engine: what is computed on one row. Columns are referred to by
their position in the input, counted from one; names are attached to columns only by
projections.
-/

namespace PlanImport.Engine

/-- The connectives of any number of conditions. -/
inductive Connective
  | and
  | or
  deriving DecidableEq, Repr

inductive Comparison
  | equal
  | notEqual
  | lessThan
  | lessThanOrEqual
  | greaterThan
  | greaterThanOrEqual
  /-- Equality under which NULL equals NULL. -/
  | notDistinctFrom
  deriving DecidableEq, Repr

/-- The operators of one operand. -/
inductive UnaryOperator
  | not
  | isNull
  | isNotNull
  deriving DecidableEq, Repr

inductive Expr
  | constant (value : Value)
  /-- A column of the input, by its position from one. -/
  | column (position : Nat)
  /-- A call of a named function; only aggregates are ever distinct. -/
  | call (name : String) (args : List Expr) (distinct : Bool)
  | conjunction (op : Connective) (children : List Expr)
  | comparison (op : Comparison) (left right : Expr)
  | unary (op : UnaryOperator) (operand : Expr)
  /-- The result of the first arm whose condition holds. An arm is a condition and a result. -/
  | case (arms : List (Expr × Expr)) (otherwise : Expr)
  | cast (target : SqlType) (operand : Expr)
  /-- Both ends are included. -/
  | between (input lower upper : Expr)
  | inList (value : Expr) (options : List Expr)
  /-- A struct with named fields. -/
  | struct (fields : List (String × Expr))
  /-- A struct with fields in order. -/
  | row (fields : List Expr)
  | list (items : List Expr)
  /-- A map with one entry. -/
  | map (key value : Expr)
  deriving Repr, Inhabited

namespace Expr

def isConstant : Expr → Bool
  | constant _ => true
  | _ => false

def isTextConstant : Expr → Bool
  | constant (.varchar _) => true
  | _ => false

mutual

/-- The type of an expression, as far as it follows from its shape and the types of the input
columns. A column without a known type and a function call have an unknown type. -/
def typeOver (input : List SqlType) : Expr → SqlType
  | constant v => v.type
  | column position =>
    match position with
    | 0 => .unknown
    | i + 1 => input[i]?.getD .unknown
  | call .. => .unknown
  | conjunction .. => .boolean
  | comparison .. => .boolean
  | unary .. => .boolean
  | between .. => .boolean
  | inList .. => .boolean
  | case arms otherwise => .firstKnown (armTypes input arms ++ [typeOver input otherwise])
  | cast target _ => target
  | struct fields => .struct (fieldTypes input fields)
  | row fields => .struct (numbered 1 (typesOver input fields))
  | list [] => .list .sqlNull
  | list (first :: _) => .list (typeOver input first)
  | map key value => .map (typeOver input key) (typeOver input value)
where
  /-- Types as fields named by their number. -/
  numbered (n : Nat) : List SqlType → List (String × SqlType)
    | [] => []
    | t :: rest => (s!"v{n}", t) :: numbered (n + 1) rest

def typesOver (input : List SqlType) : List Expr → List SqlType
  | [] => []
  | e :: rest => typeOver input e :: typesOver input rest

/-- The types of the results of the arms of a case. -/
def armTypes (input : List SqlType) : List (Expr × Expr) → List SqlType
  | [] => []
  | (_, result) :: rest => typeOver input result :: armTypes input rest

def fieldTypes (input : List SqlType) : List (String × Expr) → List (String × SqlType)
  | [] => []
  | (name, e) :: rest => (name, typeOver input e) :: fieldTypes input rest

end

end Expr

def Comparison.text : Comparison → String
  | equal => "="
  | notEqual => "<>"
  | lessThan => "<"
  | lessThanOrEqual => "<="
  | greaterThan => ">"
  | greaterThanOrEqual => ">="
  | notDistinctFrom => "IS NOT DISTINCT FROM"

/-- A text between single quotes, those inside it written twice. -/
def quotedConstant (s : String) : String :=
  let quote := '\x27'
  .ofList (quote :: s.toList.flatMap (fun c => if c = quote then [c, c] else [c]) ++ [quote])

namespace Expr

mutual

def text : Expr → String
  | constant (.varchar s) => quotedConstant s
  | constant v => v.text
  | column position => "#" ++ .ofList (Text.digits position)
  | call name args distinct =>
    name ++ "(" ++ (if distinct then "DISTINCT " else "") ++ ", ".intercalate (texts args) ++ ")"
  | conjunction op children =>
    let separator := match op with
      | .and => " AND "
      | .or => " OR "
    "(" ++ separator.intercalate (texts children) ++ ")"
  | comparison op left right => "(" ++ left.text ++ " " ++ op.text ++ " " ++ right.text ++ ")"
  | unary .not operand => "(NOT " ++ operand.text ++ ")"
  | unary .isNull operand => "(" ++ operand.text ++ " IS NULL)"
  | unary .isNotNull operand => "(" ++ operand.text ++ " IS NOT NULL)"
  | case arms otherwise => "CASE" ++ armsText arms ++ " ELSE " ++ otherwise.text ++ " END"
  | cast target operand => "CAST(" ++ operand.text ++ " AS " ++ target.text ++ ")"
  | between input lower upper =>
    "(" ++ input.text ++ " BETWEEN " ++ lower.text ++ " AND " ++ upper.text ++ ")"
  | inList value options => "(" ++ value.text ++ " IN (" ++ ", ".intercalate (texts options) ++ "))"
  | struct fields => "struct_pack(" ++ ", ".intercalate (fieldTexts fields) ++ ")"
  | row fields => "row(" ++ ", ".intercalate (texts fields) ++ ")"
  | list items => "list_value(" ++ ", ".intercalate (texts items) ++ ")"
  | map key value => "map(" ++ key.text ++ ", " ++ value.text ++ ")"

def texts : List Expr → List String
  | [] => []
  | e :: rest => e.text :: texts rest

/-- The arms of a case, one after the other. -/
def armsText : List (Expr × Expr) → String
  | [] => ""
  | (condition, result) :: rest =>
    " WHEN " ++ condition.text ++ " THEN " ++ result.text ++ armsText rest

def fieldTexts : List (String × Expr) → List String
  | [] => []
  | (name, e) :: rest => (name ++ " := " ++ e.text) :: fieldTexts rest

end

end Expr

end PlanImport.Engine
