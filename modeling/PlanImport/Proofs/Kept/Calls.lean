import PlanImport.Proofs.Lowering.Expression
import PlanImport.Proofs.Naming.Taken

/-!
# Calls in the expressions that they are lowered to

An expression that is lowered keeps all of its calls: each becomes an expression inside of the
lowered one, and they stand there in the order in which they stand in the plan. Of the options among
the arguments only that of the extraction of a part of a date is kept; every other call is lowered
as if it had none.
-/

namespace PlanImport

open Engine

/-! ### Lists of which the items are found in order -/

section SublistForall

variable {α β : Type} {R : α → β → Prop} {as as' : List α} {bs bs' : List β}

lemma sublistForall₂_of_sublist (h : as.SublistForall₂ R bs) (hsub : bs.Sublist bs') :
    as.SublistForall₂ R bs' := by
  obtain ⟨found, hfound, hle⟩ := List.sublistForall₂_iff.mp h
  exact List.sublistForall₂_iff.mpr ⟨found, hfound, hle.trans hsub⟩

lemma sublistForall₂_append (h : as.SublistForall₂ R bs) (h' : as'.SublistForall₂ R bs') :
    (as ++ as').SublistForall₂ R (bs ++ bs') := by
  obtain ⟨found, hfound, hle⟩ := List.sublistForall₂_iff.mp h
  obtain ⟨found', hfound', hle'⟩ := List.sublistForall₂_iff.mp h'
  exact List.sublistForall₂_iff.mpr
    ⟨found ++ found', List.rel_append hfound hfound', hle.append hle'⟩

lemma exists_of_mem_sublistForall₂ (h : as.SublistForall₂ R bs) {a : α} (ha : a ∈ as) :
    ∃ b ∈ bs, R a b := by
  obtain ⟨found, hfound, hle⟩ := List.sublistForall₂_iff.mp h
  obtain ⟨b, hb, hab⟩ := exists_of_mem_forall₂ hfound ha
  exact ⟨b, hle.subset hb, hab⟩

end SublistForall

/-! ### What expressions are made of -/

namespace Engine.Expr

mutual

/-- An expression with all expressions inside of it, each in front of those inside of it. -/
def subexpressions : Expr → List Expr
  | constant v => [constant v]
  | column position => [column position]
  | call name args distinct => call name args distinct :: allSubexpressions args
  | conjunction op children => conjunction op children :: allSubexpressions children
  | comparison op left right =>
    comparison op left right :: left.subexpressions ++ right.subexpressions
  | unary op operand => unary op operand :: operand.subexpressions
  | case arms otherwise =>
    case arms otherwise :: armSubexpressions arms ++ otherwise.subexpressions
  | cast target operand => cast target operand :: operand.subexpressions
  | between input lower upper =>
    between input lower upper ::
      input.subexpressions ++ lower.subexpressions ++ upper.subexpressions
  | inList value options =>
    inList value options :: value.subexpressions ++ allSubexpressions options
  | struct fields => struct fields :: fieldSubexpressions fields
  | row fields => row fields :: allSubexpressions fields
  | list items => list items :: allSubexpressions items
  | map key value => map key value :: key.subexpressions ++ value.subexpressions

def allSubexpressions : List Expr → List Expr
  | [] => []
  | e :: rest => e.subexpressions ++ allSubexpressions rest

def armSubexpressions : List (Expr × Expr) → List Expr
  | [] => []
  | (condition, result) :: rest =>
    condition.subexpressions ++ result.subexpressions ++ armSubexpressions rest

def fieldSubexpressions : List (String × Expr) → List Expr
  | [] => []
  | (_, e) :: rest => e.subexpressions ++ fieldSubexpressions rest

end

lemma allSubexpressions_eq_flatMap (es : List Expr) :
    allSubexpressions es = es.flatMap subexpressions := by
  induction es with
  | nil => rfl
  | cons e es ih => rw [allSubexpressions, ih, List.flatMap_cons]

/-- Names do not change what is in the fields. -/
lemma fieldSubexpressions_zip {names : List String} {fields : List Expr}
    (h : names.length = fields.length) :
    fieldSubexpressions (names.zip fields) = allSubexpressions fields := by
  induction names generalizing fields with
  | nil =>
    rw [List.eq_nil_of_length_eq_zero h.symm]
    rfl
  | cons name names ih =>
    obtain ⟨e, fields, rfl⟩ := List.exists_cons_of_length_eq_add_one h.symm
    rw [List.zip_cons_cons, fieldSubexpressions, allSubexpressions, ih (Nat.succ.inj h)]

end Engine.Expr

namespace Plan

def Argument.option? : Argument → Option String
  | option name => some name
  | unset | type | value _ => none

structure FunctionCall where
  anchor : UInt32
  arguments : List Argument

namespace FunctionCall

def lower (functions : FunctionTable) (f : FunctionCall) : Except Refusal Expr :=
  (Expression.call f.anchor f.arguments).lower functions

def options (f : FunctionCall) : List String := f.arguments.filterMap Argument.option?

def withoutOptions (f : FunctionCall) : FunctionCall :=
  { f with arguments := f.arguments.filter (·.option?.isNone) }

end FunctionCall

mutual

/-- The calls in an expression, each in front of those in its arguments. -/
def Expression.calls : Expression → List FunctionCall
  | .unset | .literal _ | .selection _ | .nestedUnset | .other _ => []
  | .call anchor arguments => ⟨anchor, arguments⟩ :: argumentCalls arguments
  | .ifThen clauses otherwise => clauseCalls clauses ++ optionalCalls otherwise
  | .cast _ input => optionalCalls input
  | .inList value options => optionalCalls value ++ allCalls options
  | .nestedStruct fields => allCalls fields
  | .nestedList items => allCalls items
  | .nestedMap entries => entryCalls entries

def allCalls : List Expression → List FunctionCall
  | [] => []
  | e :: rest => e.calls ++ allCalls rest

def optionalCalls : Option Expression → List FunctionCall
  | none => []
  | some e => e.calls

def argumentCalls : List Argument → List FunctionCall
  | [] => []
  | .value e :: rest => e.calls ++ argumentCalls rest
  | .unset :: rest | .type :: rest | .option _ :: rest => argumentCalls rest

def clauseCalls : List Clause → List FunctionCall
  | [] => []
  | .mk condition result :: rest =>
    optionalCalls condition ++ optionalCalls result ++ clauseCalls rest

def entryCalls : List MapEntry → List FunctionCall
  | [] => []
  | .mk key value :: rest => optionalCalls key ++ optionalCalls value ++ entryCalls rest

end

/-! ### Calls are kept -/

variable {functions : FunctionTable}

/-- Each call is lowered to one of the expressions, and these stand in the order of the calls. -/
def CallsIn (functions : FunctionTable) (calls : List FunctionCall) (es : List Expr) : Prop :=
  calls.SublistForall₂ (fun f e => f.lower functions = .ok e) es

/-- A call becomes one expression that holds its arguments. -/
lemma IsCallOf.sublist_subexpressions {name : String} {args : List Expr} {e : Expr}
    (h : IsCallOf name args e) : (e :: Expr.allSubexpressions args).Sublist e.subexpressions := by
  cases h with
  | extract part args =>
    rw [Expr.subexpressions, Expr.allSubexpressions]
    exact (List.sublist_append_right _ _).cons_cons _
  | and | or | notEqual | notLike | between | comparison | unary | function =>
    simp [Expr.subexpressions, Expr.allSubexpressions]

mutual

/-- All calls in an expression are kept when it is lowered. -/
lemma Expression.callsIn_lower (e : Expression) {e' : Expr} (h : e.lower functions = .ok e') :
    CallsIn functions e.calls e'.subexpressions := by
  match e with
  | .unset => cases h
  | .nestedUnset => cases h
  | .other kind => cases h
  | .literal l => exact .nil
  | .selection reference => exact .nil
  | .call anchor arguments =>
    have hcall : (FunctionCall.mk anchor arguments).lower functions = .ok e' := h
    simp only [Expression.lower, bind_eq_ok] at h
    obtain ⟨name, -, ⟨args, options⟩, hargs, h⟩ := h
    exact sublistForall₂_of_sublist (.cons hcall (callsIn_lowerArguments arguments hargs))
      (isCallOf_of_callExpr h).sublist_subexpressions
  | .ifThen clauses otherwise =>
    simp only [Expression.lower, bind_eq_ok] at h
    obtain ⟨arms, harms, result, hresult, h⟩ := h
    cases h
    exact .cons_right (sublistForall₂_append (callsIn_lowerClauses clauses harms)
      (callsIn_lowerRequired otherwise hresult))
  | .cast target input =>
    simp only [Expression.lower, bind_eq_ok] at h
    obtain ⟨target', -, type, -, operand, hoperand, h⟩ := h
    cases h
    exact .cons_right (callsIn_lowerRequired input hoperand)
  | .inList value options =>
    simp only [Expression.lower, bind_eq_ok] at h
    obtain ⟨value', hvalue, options', hoptions, h⟩ := h
    cases h
    exact .cons_right (sublistForall₂_append (callsIn_lowerRequired value hvalue)
      (callsIn_lowerAll options hoptions))
  | .nestedStruct fields =>
    simp only [Expression.lower, bind_eq_ok] at h
    obtain ⟨fields', hfields, h⟩ := h
    cases h
    exact .cons_right (callsIn_lowerAll fields hfields)
  | .nestedList items =>
    simp only [Expression.lower, bind_eq_ok] at h
    obtain ⟨items', hitems, h⟩ := h
    cases h
    exact .cons_right (callsIn_lowerAll items hitems)
  | .nestedMap [] => cases h
  | .nestedMap [.mk key value] =>
    simp only [Expression.lower, bind_eq_ok] at h
    obtain ⟨key', hkey, value', hvalue, h⟩ := h
    cases h
    rw [Expression.calls, entryCalls, entryCalls, List.append_nil]
    exact .cons_right (sublistForall₂_append (callsIn_lowerRequired key hkey)
      (callsIn_lowerRequired value hvalue))
  | .nestedMap (.mk _ _ :: _ :: _) => cases h

lemma callsIn_lowerAll (es : List Expression) {es' : List Expr}
    (h : lowerAll functions es = .ok es') :
    CallsIn functions (allCalls es) (Expr.allSubexpressions es') := by
  match es with
  | [] => exact .nil
  | e :: es =>
    simp only [lowerAll, bind_eq_ok] at h
    obtain ⟨e', he, rest, hrest, h⟩ := h
    cases h
    exact sublistForall₂_append (e.callsIn_lower he) (callsIn_lowerAll es hrest)

lemma callsIn_lowerRequired {field : String} (e : Option Expression) {e' : Expr}
    (h : lowerRequired functions field e = .ok e') :
    CallsIn functions (optionalCalls e) e'.subexpressions := by
  match e with
  | none => cases h
  | some e =>
    rw [lowerRequired] at h
    exact e.callsIn_lower h

/-- The options are passed over, and the calls are all in the other arguments. -/
lemma callsIn_lowerArguments (arguments : List Argument) {args : List Expr}
    {options : List String} (h : lowerArguments functions arguments = .ok (args, options)) :
    CallsIn functions (argumentCalls arguments) (Expr.allSubexpressions args) := by
  match arguments with
  | [] => exact .nil
  | .unset :: _ => cases h
  | .type :: _ => cases h
  | .option name :: rest =>
    simp only [lowerArguments, bind_eq_ok] at h
    obtain ⟨⟨args', options'⟩, hrest, h⟩ := h
    cases h
    exact callsIn_lowerArguments rest hrest
  | .value e :: rest =>
    simp only [lowerArguments, bind_eq_ok] at h
    obtain ⟨e', he, ⟨args', options'⟩, hrest, h⟩ := h
    cases h
    exact sublistForall₂_append (e.callsIn_lower he) (callsIn_lowerArguments rest hrest)

/-- A condition stands in front of its result in the clauses and in the arms. -/
lemma callsIn_lowerClauses (clauses : List Clause) {arms : List (Expr × Expr)}
    (h : lowerClauses functions clauses = .ok arms) :
    CallsIn functions (clauseCalls clauses) (Expr.armSubexpressions arms) := by
  match clauses with
  | [] => exact .nil
  | .mk condition result :: rest =>
    simp only [lowerClauses, bind_eq_ok] at h
    obtain ⟨condition', hcondition, result', hresult, arms', harms, h⟩ := h
    cases h
    exact sublistForall₂_append (sublistForall₂_append (callsIn_lowerRequired condition hcondition)
      (callsIn_lowerRequired result hresult)) (callsIn_lowerClauses rest harms)

end

/-- A struct keeps the calls in its fields also if these take names. -/
lemma callsIn_nameColumn {calls : List FunctionCall} {fields : List Expr}
    (h : CallsIn functions calls (Expr.allSubexpressions fields)) (names : NameStream) :
    CallsIn functions calls (names.nameColumn (.row fields)).1.subexpressions := by
  obtain he | ⟨_, _, _, hrow, hnames, he⟩ := names.fst_nameColumn (.row fields)
  · rw [he]
    exact .cons_right h
  · cases hrow
    rw [he, Expr.subexpressions,
      Expr.fieldSubexpressions_zip (NameStream.length_fieldNames? hnames)]
    exact .cons_right h

/-- A column that constructs a struct has its fields as parts, named or not. -/
lemma callsIn_lowerColumn {names names' : NameStream} {e : Expression} {e' : Expr}
    (h : e.lowerColumn functions names = (.ok e', names')) :
    CallsIn functions e.calls e'.subexpressions := by
  by_cases he : ∃ es, e = .nestedStruct es
  · obtain ⟨es, rfl⟩ := he
    rw [Expression.lowerColumn_eq] at h
    split at h
    · cases h
    · rename_i row hrow
      cases h
      obtain ⟨fields, hfields, hrow⟩ := bind_eq_ok.mp hrow
      cases hrow
      exact callsIn_nameColumn (callsIn_lowerAll es hfields) names
  · rw [Expression.lowerColumn_of_ne_struct functions names fun es h => he ⟨es, h⟩] at h
    exact e.callsIn_lower (Prod.mk.inj h).1

lemma callsIn_lowerColumns {names : NameStream} {es : List Expression} {es' : List Expr}
    (h : lowerColumns functions names es = .ok es') :
    CallsIn functions (allCalls es) (Expr.allSubexpressions es') := by
  induction es generalizing names es' with
  | nil => exact .nil
  | cons e es ih =>
    rw [lowerColumns] at h
    split at h
    · cases h
    · rename_i e' names' he
      obtain ⟨rest, hrest, rfl⟩ := map_eq_ok.mp h
      exact sublistForall₂_append (callsIn_lowerColumn he) (ih hrest)

/-! ### Options -/

/-- The options are set aside in their order, and the values do not depend on them. -/
lemma options_of_lowerArguments (arguments : List Argument) {args : List Expr}
    {options : List String} (h : lowerArguments functions arguments = .ok (args, options)) :
    options = arguments.filterMap Argument.option? ∧
      lowerArguments functions (arguments.filter (·.option?.isNone)) = .ok (args, []) := by
  induction arguments generalizing args options with
  | nil =>
    cases h
    exact ⟨rfl, rfl⟩
  | cons argument rest ih =>
    cases argument with
    | unset | type => cases h
    | option name =>
      simp only [lowerArguments, bind_eq_ok] at h
      obtain ⟨⟨args', options'⟩, hrest, h⟩ := h
      cases h
      obtain ⟨rfl, hargs⟩ := ih hrest
      exact ⟨rfl, hargs⟩
    | value e =>
      simp only [lowerArguments, bind_eq_ok] at h
      obtain ⟨e', he, ⟨args', options'⟩, hrest, h⟩ := h
      cases h
      obtain ⟨rfl, hargs⟩ := ih hrest
      refine ⟨rfl, ?_⟩
      rw [List.filter_cons_of_pos rfl, lowerArguments, he, hargs]
      rfl

/-- Only the extraction of a part of a date looks at options. -/
lemma callExpr_eq_of_ne_extract {name : String} (h : name ≠ "extract") (args : List Expr)
    (options : List String) : callExpr name args options = callExpr name args [] := by
  unfold callExpr
  split
  case h_5 => exact absurd rfl h
  all_goals rfl

namespace FunctionCall

variable {f : FunctionCall} {name : String} {e : Expr}

/-- What a call becomes follows from its name, its arguments and its options. -/
lemma lower_eq_ok : f.lower functions = .ok e ↔ ∃ name args, functions.find f.anchor = .ok name ∧
    lowerArguments functions f.arguments = .ok (args, f.options) ∧
    callExpr (plainName name) args f.options = .ok e := by
  simp only [lower, Expression.lower, bind_eq_ok, Prod.exists]
  constructor
  · rintro ⟨name, hname, args, options, hargs, h⟩
    obtain ⟨rfl, -⟩ := options_of_lowerArguments _ hargs
    exact ⟨name, args, hname, hargs, h⟩
  · rintro ⟨name, args, hname, hargs, h⟩
    exact ⟨name, hname, args, _, hargs, h⟩

/-- The extraction of a part of a date has one option, which becomes its first argument. -/
lemma lower_extract (hname : functions.find f.anchor = .ok name) (h : plainName name = "extract")
    (he : f.lower functions = .ok e) : ∃ part args, f.options = [part] ∧
      e = .call (engineName "extract") (.constant (.varchar part) :: args) false := by
  obtain ⟨name', args, hname', -, hcall⟩ := lower_eq_ok.mp he
  rw [hname] at hname'
  cases hname'
  rw [h] at hcall
  obtain ⟨part, hpart, hcall⟩ := bind_eq_ok.mp hcall
  cases hcall
  exact ⟨part, args, eq_singleton_of_chosenDatePart hpart, rfl⟩

/-- Every other call is lowered as if it had no options. -/
lemma lower_withoutOptions (hname : functions.find f.anchor = .ok name)
    (h : plainName name ≠ "extract") (he : f.lower functions = .ok e) :
    f.withoutOptions.lower functions = .ok e := by
  obtain ⟨name', args, hname', hargs, hcall⟩ := lower_eq_ok.mp he
  rw [hname] at hname'
  cases hname'
  have hvalues := (options_of_lowerArguments f.arguments hargs).2
  simp only [lower, Expression.lower, bind_eq_ok]
  refine ⟨name, hname, (args, []), hvalues, ?_⟩
  rw [← callExpr_eq_of_ne_extract h args f.options]
  exact hcall

end FunctionCall

end Plan

end PlanImport
