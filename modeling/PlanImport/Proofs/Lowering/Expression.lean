import PlanImport.Lowering.Expression
import PlanImport.Proofs.Lowering.Run

/-!
# What a call is lowered to

The name of a function and the number of its arguments decide on the shape of the expression that a
call becomes. The arguments are its parts, in their order.
-/

namespace PlanImport

open Engine

lemma FunctionTable.find_eq_ok {functions : FunctionTable} {anchor : UInt32} {name : String} :
    functions.find anchor = .ok name ↔ functions.get? anchor = some name := by
  unfold FunctionTable.find
  cases functions.get? anchor <;> simp

namespace Plan

/-- There is a part of a date only where one option is given. -/
lemma eq_singleton_of_chosenDatePart {options : List String} {part : String}
    (h : chosenDatePart options = .ok part) : options = [part] := by
  unfold chosenDatePart at h
  split at h
  · split_ifs at h
    cases h
    rfl
  · cases h

/-- The expressions that a call with the given arguments becomes, by the name of the function. -/
inductive IsCallOf : String → List Expr → Expr → Prop
  | and (args : List Expr) : IsCallOf "and" args (.conjunction .and args)
  | or (args : List Expr) : IsCallOf "or" args (.conjunction .or args)
  | notEqual (left right : Expr) :
    IsCallOf "not_equal" [left, right] (.comparison .notEqual left right)
  | notLike {left right : Expr} (h : left.isTextConstant || right.isTextConstant) :
    IsCallOf "not_equal" [left, right] (.call "!~~" [left, right] false)
  | between (input lower upper : Expr) :
    IsCallOf "between" [input, lower, upper] (.between input lower upper)
  | extract (part : String) (args : List Expr) :
    IsCallOf "extract" args (.call (engineName "extract") (.constant (.varchar part) :: args) false)
  | comparison {name : String} {op : Comparison} (h : comparison? name = some op)
      (left right : Expr) : IsCallOf name [left, right] (.comparison op left right)
  | unary {name : String} {op : UnaryOperator} (h : unary? name = some op) (operand : Expr) :
    IsCallOf name [operand] (.unary op operand)
  | function {name : String} (hcomparison : comparison? name = none) (hunary : unary? name = none)
      (hname : name ∉ ["and", "or", "not_equal", "between", "extract"]) (args : List Expr) :
    IsCallOf name args (.call (engineName name) args false)

/-- What a call becomes is one of the expressions for its name. The cases are those of the
translation: one for each operator, and the last one for functions that keep their names. -/
lemma isCallOf_of_callExpr {name : String} {args : List Expr} {options : List String} {e : Expr}
    (h : callExpr name args options = .ok e) : IsCallOf name args e := by
  unfold callExpr at h
  split at h
  · cases h
    exact .and args
  · cases h
    exact .or args
  · split at h
    · split_ifs at h with htext
      · cases h
        exact .notLike htext
      · cases h
        exact .notEqual _ _
    · cases h
  · split at h
    · cases h
      exact .between _ _ _
    · cases h
  · obtain ⟨part, -, h⟩ := bind_eq_ok.mp h
    cases h
    exact .extract part args
  · rename_i hand hor hnotEqual hbetween hextract
    split at h
    · rename_i op _ hop
      split at h
      · cases h
        exact .comparison hop _ _
      · cases h
    · rename_i op hnone hop
      split at h
      · cases h
        exact .unary hop _
      · cases h
    · rename_i hcomparison hunary
      cases h
      refine .function hcomparison hunary ?_ args
      simpa using ⟨hand, hor, hnotEqual, hbetween, hextract⟩

end Plan

end PlanImport
