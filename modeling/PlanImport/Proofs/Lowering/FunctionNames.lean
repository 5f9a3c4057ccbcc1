import PlanImport.Lowering.Rel
import PlanImport.Proofs.Lowering.Expression
import PlanImport.Proofs.Naming.Columns

/-!
# Names of functions

What a call becomes depends on the part of the declared name in front of the first colon and on
nothing else of the declarations. So under two tables with the same such names everything is lowered
alike, refusals included.
-/

namespace PlanImport

open Engine Plan

/-! ### Tables with the same names -/

namespace FunctionTable

variable {functions functions' : FunctionTable}

/-- Under each anchor there is a function in both tables or in neither, and in the former case the
two names agree up to the first colon. -/
def SameNames (functions functions' : FunctionTable) : Prop :=
  ∀ anchor, (functions.get? anchor).map plainName = (functions'.get? anchor).map plainName

lemma SameNames.refl (functions : FunctionTable) : functions.SameNames functions := fun _ => rfl

/-- What goes on with the name in front of the colon goes on alike, and so does the refusal of an
anchor without a function. -/
lemma SameNames.find_bind {α : Type} (h : functions.SameNames functions') (anchor : UInt32)
    (k : String → Except Refusal α) :
    (functions.find anchor >>= fun name => k (plainName name)) =
      functions'.find anchor >>= fun name => k (plainName name) := by
  have hsame := h anchor
  unfold FunctionTable.find
  cases hname : functions.get? anchor with
  | none =>
    rw [hname, Option.map_none, eq_comm, Option.map_eq_none_iff] at hsame
    rw [hsame]
  | some name =>
    rw [hname, Option.map_some, eq_comm, Option.map_eq_some_iff] at hsame
    obtain ⟨name', hname', hplain⟩ := hsame
    rw [hname']
    show k (plainName name) = k (plainName name')
    rw [hplain]

end FunctionTable

/-! ### Expressions -/

namespace FunctionTable.SameNames

variable {functions functions' : FunctionTable}

mutual

/-- An expression is lowered alike under tables with the same names. -/
lemma lower_eq (h : functions.SameNames functions') (e : Expression) :
    e.lower functions = e.lower functions' := by
  match e with
  | .unset | .literal _ | .selection _ | .nestedUnset | .other _ => rfl
  | .call anchor arguments =>
    rw [Expression.lower, Expression.lower, lowerArguments_eq h arguments]
    exact h.find_bind anchor fun plain => do
      let (args, options) ← lowerArguments functions' arguments
      callExpr plain args options
  | .ifThen clauses otherwise =>
    rw [Expression.lower, Expression.lower, lowerClauses_eq h clauses,
      lowerRequired_eq h _ otherwise]
  | .cast target input =>
    rw [Expression.lower, Expression.lower, lowerRequired_eq h _ input]
  | .inList value options =>
    rw [Expression.lower, Expression.lower, lowerRequired_eq h _ value, lowerAll_eq h options]
  | .nestedStruct fields =>
    rw [Expression.lower, Expression.lower, lowerAll_eq h fields]
  | .nestedList items =>
    rw [Expression.lower, Expression.lower, lowerAll_eq h items]
  | .nestedMap [] => rfl
  | .nestedMap [.mk key value] =>
    rw [Expression.lower, Expression.lower, lowerRequired_eq h _ key, lowerRequired_eq h _ value]
  | .nestedMap (.mk _ _ :: _ :: _) => rfl

lemma lowerAll_eq (h : functions.SameNames functions') (es : List Expression) :
    lowerAll functions es = lowerAll functions' es := by
  match es with
  | [] => rfl
  | e :: rest => rw [lowerAll, lowerAll, lower_eq h e, lowerAll_eq h rest]

lemma lowerRequired_eq (h : functions.SameNames functions') (field : String)
    (e : Option Expression) :
    lowerRequired functions field e = lowerRequired functions' field e := by
  match e with
  | none => rfl
  | some e => rw [lowerRequired, lowerRequired, lower_eq h e]

/-- Arguments are lowered alike, as only the values among them refer to functions. -/
lemma lowerArguments_eq (h : functions.SameNames functions') (arguments : List Argument) :
    lowerArguments functions arguments = lowerArguments functions' arguments := by
  match arguments with
  | [] => rfl
  | .unset :: _ => rfl
  | .type :: _ => rfl
  | .option name :: rest => rw [lowerArguments, lowerArguments, lowerArguments_eq h rest]
  | .value e :: rest =>
    rw [lowerArguments, lowerArguments, lower_eq h e, lowerArguments_eq h rest]

lemma lowerClauses_eq (h : functions.SameNames functions') (clauses : List Clause) :
    lowerClauses functions clauses = lowerClauses functions' clauses := by
  match clauses with
  | [] => rfl
  | .mk condition result :: rest =>
    rw [lowerClauses, lowerClauses, lowerRequired_eq h _ condition, lowerRequired_eq h _ result,
      lowerClauses_eq h rest]

end

/-- The names of output columns are given to columns that are lowered alike. -/
lemma lowerColumns_eq (h : functions.SameNames functions') (names : NameStream)
    (es : List Expression) :
    lowerColumns functions names es = lowerColumns functions' names es := by
  rw [Plan.lowerColumns_eq, Plan.lowerColumns_eq, h.lowerAll_eq es]

end FunctionTable.SameNames

/-! ### Parts of relations -/

namespace FunctionTable.SameNames

variable {c c' : LoweringContext}

lemma filtered_eq (h : c.functions.SameNames c'.functions) (filter : Option Expression)
    (scan : Relation) : c.filtered filter scan = c'.filtered filter scan := by
  cases filter with
  | none => rfl
  | some condition =>
    rw [LoweringContext.filtered, LoweringContext.filtered, h.lower_eq condition]

lemma lowerSortField_eq (h : c.functions.SameNames c'.functions) :
    c.lowerSortField = c'.lowerSortField := by
  funext f
  simp only [LoweringContext.lowerSortField, h.lowerRequired_eq]

lemma lowerAggregateArgument_eq (h : c.functions.SameNames c'.functions) :
    c.lowerAggregateArgument = c'.lowerAggregateArgument := by
  funext argument
  cases argument with
  | value e =>
    rw [LoweringContext.lowerAggregateArgument, LoweringContext.lowerAggregateArgument,
      h.lower_eq e]
  | unset | option | type => rfl

/-- Counting rows is told from other measures by the name in front of the colon, too. -/
lemma lowerMeasure_eq (h : c.functions.SameNames c'.functions) :
    c.lowerMeasure = c'.lowerMeasure := by
  funext measure
  rw [LoweringContext.lowerMeasure, LoweringContext.lowerMeasure, h.lowerAggregateArgument_eq]
  refine bind_congr fun f => bind_congr fun args => ?_
  exact h.find_bind f.anchor fun declared =>
    pure (Expr.call
      (if declared = "count" ∧ args.isEmpty then "count_star" else engineName declared)
      args (f.invocation = 2))

lemma lowerGroups_eq (h : c.functions.SameNames c'.functions)
    (groupings : List (List Expression)) : c.lowerGroups groupings = c'.lowerGroups groupings := by
  rw [LoweringContext.lowerGroups, LoweringContext.lowerGroups, h.lowerAll_eq]

lemma lowerProjected_eq (h : c.functions.SameNames c'.functions) (names : Option (List String))
    (expressions : List Expression) :
    c.lowerProjected names expressions = c'.lowerProjected names expressions := by
  cases names with
  | none => exact h.lowerAll_eq expressions
  | some names => exact h.lowerColumns_eq _ expressions

end FunctionTable.SameNames

end PlanImport
