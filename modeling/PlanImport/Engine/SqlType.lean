/-!
# Logical types

The types of columns and expressions in the engine. A struct type has named fields; the names
nested in a type are the names that a column of it takes from a flat list of names besides its
own.
-/

namespace PlanImport.Engine

/-- The type of a column or an expression. -/
inductive SqlType
  /-- The type of a NULL without a type. -/
  | sqlNull
  /-- A type that does not follow from the plan alone. -/
  | unknown
  | boolean
  | tinyInt
  | smallInt
  | integer
  | bigInt
  | uBigInt
  | float
  | double
  /-- Decimals of `width` digits, `scale` of them after the point. -/
  | decimal (width scale : UInt8)
  | date
  | time
  | timestamp
  | interval
  | varchar
  | list (element : SqlType)
  /-- Named fields in the order of their declaration. -/
  | struct (fields : List (String × SqlType))
  | map (key value : SqlType)
  deriving Repr, Inhabited

namespace SqlType

/-- Whether this is the type of a NULL without a type. -/
def isNull : SqlType → Bool
  | sqlNull => true
  | _ => false

mutual

/-- The number of names nested in a type. Only structs have any: one for each field and those
nested in its type. -/
def innerNames : SqlType → Nat
  | struct fields => fieldNames fields
  | _ => 0

/-- The number of names of fields and in their types. -/
def fieldNames : List (String × SqlType) → Nat
  | [] => 0
  | (_, type) :: rest => 1 + type.innerNames + fieldNames rest

end

mutual

/-- The name of a type in SQL. -/
def text : SqlType → String
  | sqlNull => "NULL"
  | unknown => "UNKNOWN"
  | boolean => "BOOLEAN"
  | tinyInt => "TINYINT"
  | smallInt => "SMALLINT"
  | integer => "INTEGER"
  | bigInt => "BIGINT"
  | uBigInt => "UBIGINT"
  | float => "FLOAT"
  | double => "DOUBLE"
  | decimal width scale => s!"DECIMAL({width.toNat},{scale.toNat})"
  | date => "DATE"
  | time => "TIME"
  | timestamp => "TIMESTAMP"
  | interval => "INTERVAL"
  | varchar => "VARCHAR"
  | list element => element.text ++ "[]"
  | struct fields => "STRUCT(" ++ ", ".intercalate (fieldTexts fields) ++ ")"
  | map key value => "MAP(" ++ key.text ++ ", " ++ value.text ++ ")"

def fieldTexts : List (String × SqlType) → List String
  | [] => []
  | (name, type) :: rest => (name ++ " " ++ type.text) :: fieldTexts rest

end

/-- The first type that is not that of NULL. -/
def firstKnown (types : List SqlType) : SqlType :=
  (types.find? fun t => !t.isNull).getD sqlNull

end SqlType

end PlanImport.Engine
