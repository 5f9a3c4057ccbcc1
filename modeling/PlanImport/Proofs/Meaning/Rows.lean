import Mathlib.Data.List.Sort
import PlanImport.Engine.Value

/-!
# Rows

Rows of values, and how they are compared, kept, sorted and put together. Only some values can be
compared with each other; where a comparison of others would be needed there is no result.
-/

namespace PlanImport.Engine

abbrev Row := List Value

/-- The rows of tables, by schema and name. -/
abbrev TableRows := String → String → List Row

/-! ### Values -/

namespace Value

/-- How two values are ordered, if they are of one type and values of this type are compared. -/
def order? : Value → Value → Option Ordering
  | integer m, integer n => some (compare m n)
  | bigInt m, bigInt n => some (compare m n)
  | varchar s, varchar t => some (compare s t)
  | boolean a, boolean b => some (compare a b)
  | _, _ => none

/-- Whether this is the truth value that conditions are met by. NULL is not. -/
def isTrue : Value → Bool
  | boolean b => b
  | _ => false

/-- The negation of a truth value, and NULL for every other value. -/
def negated : Value → Value
  | boolean b => boolean !b
  | _ => null

/-- Whether two values pass a test of how they are ordered; NULL if one of them is. -/
def compared (test : Ordering → Bool) (x y : Value) : Option Value :=
  if x.isNull || y.isNull then some null else (x.order? y).map fun o => boolean (test o)

/-- How two values are ordered by a sort key. NULL equals NULL and has its own place among the
other values, whatever their direction. -/
def sortOrder? (descending nullsFirst : Bool) (x y : Value) : Option Ordering :=
  match x.isNull, y.isNull with
  | true, true => some .eq
  | true, false => some (if nullsFirst then .lt else .gt)
  | false, true => some (if nullsFirst then .gt else .lt)
  | false, false => (x.order? y).map fun o => if descending then o.swap else o

end Value

/-! ### Lists of rows -/

/-- The rows on which a condition is true. -/
def keptRows? (condition : Row → Option Value) (rows : List Row) : Option (List Row) :=
  rows.filterM fun row => (condition row).map Value.isTrue

/-- The order of rows by several keys: each key only decides between rows that are equal by all
keys before it. -/
def lexOrder? : List (Row → Row → Option Ordering) → Row → Row → Option Ordering
  | [], _, _ => some .eq
  | key :: rest, a, b =>
    match key a b with
    | some .eq => lexOrder? rest a b
    | o => o

/-- Rows in an order, equal ones as they stood before. All of them have to be comparable. -/
def sortRows? (order? : Row → Row → Option Ordering) (rows : List Row) : Option (List Row) :=
  if rows.Pairwise fun a b => (order? a b).isSome then
    some (rows.insertionSort fun a b => order? a b ≠ some .gt)
  else none

/-- So many rows after the first ones, or all of them if there is no limit. -/
def pageRows (offset : Nat) (limit : Option Nat) (rows : List Row) : List Row :=
  match limit with
  | some n => (rows.drop offset).take n
  | none => rows.drop offset

/-- Each row of the first list, followed by each row of the second one. -/
def pairRows (left right : List Row) : List Row :=
  left.flatMap fun l => right.map (l ++ ·)

end PlanImport.Engine
