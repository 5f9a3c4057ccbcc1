import PlanImport.Proofs.Lowering.Constant
import PlanImport.Proofs.Lowering.Expression
import PlanImport.Proofs.Meaning.Engine
import PlanImport.Proofs.Meaning.Plan

/-!
# Lowered expressions have the same values

On every row, an expression of the core and what it is lowered to have the same value, or neither
has one. Positions from zero become positions from one, functions are found by their anchors, and
operands keep their order.
-/

namespace PlanImport.Plan

open Engine

variable {functions : FunctionTable}

/-! ### Operators -/

/-- A function that stands for a comparison has the values of the comparison. -/
lemma applyFunction_comparison {name : String} {op : Comparison} (h : comparison? name = some op)
    (hname : name ∈ coreFunctions) (x y : Value) :
    applyFunction name [x, y] = Value.compared op.test x y := by
  have htest : ∀ {test test' : Ordering → Bool}, (∀ o, test o = test' o) →
      Value.compared test x y = Value.compared test' x y := fun h => by rw [funext h]
  unfold comparison? at h
  split at h <;> cases h
  -- The comparison under which NULL equals NULL is not one of the core.
  case h_6 => exact absurd hname (by decide)
  all_goals exact htest (by decide)

lemma applyFunction_unary {name : String} {op : UnaryOperator} (h : unary? name = some op)
    (x : Value) : applyFunction name [x] = some (op.apply x) := by
  unfold unary? at h
  split at h <;> cases h <;> rfl

/-- No function of the core is left to be called by its name. -/
lemma exists_operator : ∀ name ∈ coreFunctions, (comparison? name).isSome ∨ (unary? name).isSome ∨
    name ∈ ["and", "or", "not_equal", "between", "extract"] := by
  decide

/-- What takes two values takes those of two expressions from left to right. -/
lemma evalAll_pair_bind (row : Row) (left right : Expr) (f : List Value → Option Value) :
    Expr.evalAll row [left, right] >>= f =
      left.eval row >>= fun x => right.eval row >>= fun y => f [x, y] := by
  simp only [Expr.evalAll, bind_assoc, pure_bind]
  rfl

lemma evalAll_singleton_bind (row : Row) (operand : Expr) (f : List Value → Option Value) :
    Expr.evalAll row [operand] >>= f = operand.eval row >>= fun x => f [x] := by
  simp only [Expr.evalAll, bind_assoc, pure_bind]
  rfl

/-- A call of a function of the core is evaluated like the function on the values of the
arguments. -/
lemma eval_callExpr {name : String} {args : List Expr} {options : List String} {e : Expr}
    (hname : name ∈ coreFunctions)
    (htext : name = "not_equal" → ∀ arg ∈ args, arg.isTextConstant = false)
    (h : callExpr name args options = .ok e) (row : Row) :
    e.eval row = Expr.evalAll row args >>= applyFunction name := by
  cases isCallOf_of_callExpr h with
  | and | or =>
    rw [Expr.eval]
    rfl
  | notEqual left right =>
    have htest : Comparison.notEqual.test = Ordering.isNe := funext (by decide)
    rw [evalAll_pair_bind, Expr.eval, htest]
    rfl
  | notLike htexts =>
    rw [htext rfl _ (by simp), htext rfl _ (by simp)] at htexts
    cases htexts
  | between | extract => exact absurd hname (by decide)
  | comparison hop left right =>
    rw [evalAll_pair_bind, Expr.eval]
    simp only [applyFunction_comparison hop hname]
  | unary hop operand =>
    rw [evalAll_singleton_bind, Expr.eval]
    simp only [applyFunction_unary hop]
    rfl
  | function hcomparison hunary hnames =>
    rcases exists_operator name hname with hsome | hsome | hmem
    · rw [hcomparison] at hsome
      cases hsome
    · rw [hunary] at hsome
      cases hsome
    · exact absurd hmem hnames

/-! ### Constant texts -/

/-- Only literals of texts have texts for values. -/
lemma Literal.kind_of_value_eq_varchar {l : Literal} {s : String}
    (h : l.value = .ok (.varchar s)) : l.kind = .string s := by
  obtain ⟨kind, nullable⟩ := l
  cases kind with
  | string s' =>
    cases h
    rfl
  | unset | other | null | boolean | i32 | i64 | fp32 | fp64 | date | time => cases h
  | i8 | i16 =>
    obtain ⟨n, -, hn⟩ := map_eq_ok.mp h
    cases hn
  | yearMonth years months =>
    obtain ⟨folded, total, -, -, hv⟩ := yearMonthValue_eq_ok.mp h
    cases hv
  | daySecond i =>
    obtain ⟨part, micros, -, -, hv⟩ := i.value_eq_ok.mp h
    cases hv
  | decimal d =>
    obtain ⟨width, scale, stored, -, -, -, -, hv⟩ := d.value_eq_ok.mp h
    cases hv

lemma isTextConstant_eq_false {name : String} {args : List Expr} {e : Expr}
    (h : IsCallOf name args e) : e.isTextConstant = false := by
  cases h <;> rfl

/-- Only literals of texts are lowered to constant texts. -/
lemma isText_of_lower {e : Expression} {e' : Expr} (hcore : e.isCore functions = true)
    (h : e.lower functions = .ok e') (htext : e'.isTextConstant = true) :
    (Argument.value e).isText = true := by
  cases e with
  | literal l =>
    obtain ⟨v, hv, rfl⟩ := map_eq_ok.mp h
    cases v with
    | varchar s =>
      obtain ⟨kind, nullable⟩ := l
      cases Literal.kind_of_value_eq_varchar hv
      rfl
    | _ => cases htext
  | selection reference =>
    cases reference with
    | structField field hasChild =>
      simp only [Expression.lower, FieldReference.column] at h
      split_ifs at h
      cases h
      cases htext
    | _ => cases h
  | call anchor arguments =>
    simp only [Expression.lower, bind_eq_ok] at h
    obtain ⟨name, -, ⟨args, options⟩, -, hcall⟩ := h
    rw [isTextConstant_eq_false (isCallOf_of_callExpr hcall)] at htext
    cases htext
  | _ => cases hcore

/-- Each argument that is lowered comes from a value among the arguments. -/
lemma exists_of_mem_lowerArguments {arguments : List Argument} {args : List Expr}
    {options : List String} (h : lowerArguments functions arguments = .ok (args, options)) :
    ∀ arg ∈ args, ∃ e, .value e ∈ arguments ∧ e.lower functions = .ok arg := by
  induction arguments generalizing args options with
  | nil =>
    cases h
    simp
  | cons argument rest ih =>
    cases argument with
    | unset | type => cases h
    | option name =>
      simp only [lowerArguments, bind_eq_ok] at h
      obtain ⟨⟨args', options'⟩, hrest, h⟩ := h
      cases h
      intro arg harg
      obtain ⟨e, he, hlower⟩ := ih hrest arg harg
      exact ⟨e, List.mem_cons_of_mem _ he, hlower⟩
    | value e =>
      simp only [lowerArguments, bind_eq_ok] at h
      obtain ⟨e', he, ⟨args', options'⟩, hrest, h⟩ := h
      cases h
      intro arg harg
      rcases List.mem_cons.mp harg with rfl | harg
      · exact ⟨e, List.mem_cons_self, he⟩
      · obtain ⟨e, he, hlower⟩ := ih hrest arg harg
        exact ⟨e, List.mem_cons_of_mem _ he, hlower⟩

lemma argumentsAreCore_iff {arguments : List Argument} :
    argumentsAreCore functions arguments = true ↔
      ∀ e, .value e ∈ arguments → e.isCore functions = true := by
  induction arguments with
  | nil => simp [argumentsAreCore]
  | cons argument rest ih => cases argument <;> simp [argumentsAreCore, ih]

/-- Without literals of texts among the values no argument becomes a constant text. -/
lemma isTextConstant_of_lowerArguments {arguments : List Argument} {args : List Expr}
    {options : List String} (hcore : argumentsAreCore functions arguments = true)
    (htexts : arguments.any Argument.isText = false)
    (h : lowerArguments functions arguments = .ok (args, options)) :
    ∀ arg ∈ args, arg.isTextConstant = false := by
  intro arg harg
  obtain ⟨e, he, hlower⟩ := exists_of_mem_lowerArguments h arg harg
  by_contra htext
  apply List.any_eq_false.mp htexts _ he
  exact isText_of_lower (argumentsAreCore_iff.mp hcore e he) hlower (by simpa using htext)

/-! ### Expressions -/

/-- A column has the value of its field. Fields are counted from zero and columns from one. -/
lemma eval_column {field : Int32} {e : Expr}
    (h : (FieldReference.structField field false).column = .ok e) (row : Row) :
    e.eval row = fieldOf? row field := by
  simp only [FieldReference.column, Bool.false_eq_true, if_false] at h
  unfold fieldOf?
  split_ifs at h ⊢
  cases h
  rfl

mutual

/-- An expression of the core has the same value as what it is lowered to. -/
lemma Expression.eval_lower (e : Expression) {e' : Expr} (hcore : e.isCore functions = true)
    (h : e.lower functions = .ok e') (row : Row) : e'.eval row = e.eval functions row := by
  match e with
  | .literal l =>
    obtain ⟨v, hv, rfl⟩ := map_eq_ok.mp h
    simp [Expr.eval, Expression.eval, hv, Except.toOption]
  | .selection (.structField field hasChild) =>
    cases hasChild with
    | true => cases hcore
    | false => exact eval_column h row
  | .selection .missing | .selection .masked | .selection .missingSegment | .selection .mapKey
  | .selection .listElement => cases h
  | .call anchor arguments =>
    simp only [Expression.lower, bind_eq_ok] at h
    obtain ⟨name, hname, ⟨args, options⟩, hargs, hcall⟩ := h
    have hname := FunctionTable.find_eq_ok.mp hname
    simp only [Expression.isCore, hname, Bool.and_eq_true, Bool.not_eq_true'] at hcore
    obtain ⟨⟨hfunction, hcore⟩, htexts⟩ := hcore
    have htext : plainName name = "not_equal" → ∀ arg ∈ args, arg.isTextConstant = false := by
      intro hne
      exact isTextConstant_of_lowerArguments hcore (by simpa [hne] using htexts) hargs
    rw [eval_callExpr (List.contains_iff_mem.mp hfunction) htext hcall row,
      evalAll_lowerArguments arguments hcore hargs row]
    simp only [Expression.eval, hname]
    rfl
  | .unset | .ifThen .. | .cast .. | .inList .. | .nestedUnset | .nestedStruct _ | .nestedList _
  | .nestedMap _ | .other _ => cases hcore

/-- The values of the arguments are those of the values among them, in the same order. -/
lemma evalAll_lowerArguments (arguments : List Argument) {args : List Expr} {options : List String}
    (hcore : argumentsAreCore functions arguments = true)
    (h : lowerArguments functions arguments = .ok (args, options)) (row : Row) :
    Expr.evalAll row args = evalArguments functions row arguments := by
  match arguments with
  | [] =>
    cases h
    rfl
  | .unset :: _ => cases h
  | .type :: _ => cases h
  | .option name :: rest =>
    simp only [lowerArguments, bind_eq_ok] at h
    obtain ⟨⟨args', options'⟩, hrest, h⟩ := h
    cases h
    simp only [argumentsAreCore] at hcore
    rw [evalArguments, evalAll_lowerArguments rest hcore hrest]
  | .value e :: rest =>
    simp only [lowerArguments, bind_eq_ok] at h
    obtain ⟨e', he, ⟨args', options'⟩, hrest, h⟩ := h
    cases h
    rw [argumentsAreCore, Bool.and_eq_true] at hcore
    rw [Expr.evalAll, evalArguments, e.eval_lower hcore.1 he,
      evalAll_lowerArguments rest hcore.2 hrest]

end

end PlanImport.Plan
