import PlanImport.Proofs.Kept.Calls

/-!
# Leaves of the expressions that are lowered

An expression has the same leaves after its lowering, from left to right: the values of its
literals and the columns that it refers to. Only the extraction of a part of a date has one more,
the name of the part in front of its arguments.
-/

namespace PlanImport

open Engine

/-! ### Leaves -/

/-- What an expression is computed from: constants and columns, the latter counted from one. -/
inductive Leaf
  | constant (value : Value)
  | column (position : Nat)

namespace Engine.Expr

/-- The leaf that an expression is, if it has no parts. -/
def leaf? : Expr → Option Leaf
  | constant v => some (.constant v)
  | column position => some (.column position)
  | _ => none

def leaves (e : Expr) : List Leaf := e.subexpressions.filterMap leaf?

end Engine.Expr

namespace Plan

/-- What a leaf stands for in an expression of a plan. -/
inductive Operand
  | literal (l : Literal)
  /-- A field of the input row, by its position from zero. -/
  | field (position : Int32)
  /-- A choice among names. -/
  | option (name : String)

/-- The leaf that stands for an operand, unless there is none. -/
def Operand.leaf? : Operand → Option Leaf
  | literal l => l.value.toOption.map .constant
  | field position => if position < 0 then none else some (.column (position.toInt + 1).toNat)
  | option name => some (.constant (.varchar name))

/-- Whether the function under an anchor extracts parts of dates. -/
def extractsPart (functions : FunctionTable) (anchor : UInt32) : Bool :=
  (functions.get? anchor).any fun name => plainName name = "extract"

section Operands

variable (functions : FunctionTable)

mutual

/-- The operands of an expression, from left to right. Options are only operands of calls that
extract a part of a date, and come first there. -/
def Expression.operands : Expression → List Operand
  | .literal l => [.literal l]
  | .selection (.structField field _) => [.field field]
  | .call anchor arguments =>
    (if extractsPart functions anchor then
      (arguments.filterMap Argument.option?).map .option else []) ++ argumentOperands arguments
  | .ifThen clauses otherwise => clauseOperands clauses ++ optionalOperands otherwise
  | .cast _ input => optionalOperands input
  | .inList value options => optionalOperands value ++ allOperands options
  | .nestedStruct fields => allOperands fields
  | .nestedList items => allOperands items
  | .nestedMap entries => entryOperands entries
  | .unset | .selection _ | .nestedUnset | .other _ => []

def allOperands : List Expression → List Operand
  | [] => []
  | e :: rest => e.operands ++ allOperands rest

def optionalOperands : Option Expression → List Operand
  | none => []
  | some e => e.operands

/-- The operands of the values among arguments. -/
def argumentOperands : List Argument → List Operand
  | [] => []
  | .value e :: rest => e.operands ++ argumentOperands rest
  | .unset :: rest | .type :: rest | .option _ :: rest => argumentOperands rest

/-- The operands of clauses, those of each condition in front of those of its result. -/
def clauseOperands : List Clause → List Operand
  | [] => []
  | .mk condition result :: rest =>
    optionalOperands condition ++ optionalOperands result ++ clauseOperands rest

/-- The operands of the entries of a map, those of each key in front of those of its value. -/
def entryOperands : List MapEntry → List Operand
  | [] => []
  | .mk key value :: rest => optionalOperands key ++ optionalOperands value ++ entryOperands rest

end

end Operands

/-! ### Leaves are kept -/

variable {functions : FunctionTable}

/-- The operands stand for the leaves among the given expressions, one for one in their order. -/
def StandFor (operands : List Operand) (es : List Expr) : Prop :=
  operands.map Operand.leaf? = (es.filterMap Expr.leaf?).map some

namespace StandFor

variable {operands operands' : List Operand} {es es' : List Expr} {e : Expr}

lemma append (h : StandFor operands es) (h' : StandFor operands' es') :
    StandFor (operands ++ operands') (es ++ es') := by
  unfold StandFor at *
  rw [List.map_append, List.filterMap_append, List.map_append, h, h']

/-- An expression with parts is no leaf itself. -/
lemma inside (he : e.leaf? = none) (h : StandFor operands es) : StandFor operands (e :: es) := by
  unfold StandFor at *
  rw [List.filterMap_cons_none he, h]

/-- An expression without parts is the leaf that one operand stands for. -/
lemma leaf {operand : Operand} {l : Leaf} (he : e.leaf? = some l) (h : operand.leaf? = some l) :
    StandFor [operand] [e] := by
  unfold StandFor
  rw [List.filterMap_cons_some he, List.map_singleton, h]
  rfl

end StandFor

/-- All leaves of a call that extracts nothing are those of its arguments. -/
lemma IsCallOf.standFor {name : String} {args : List Expr} {e : Expr} (h : IsCallOf name args e)
    (hname : name ≠ "extract") {operands : List Operand}
    (hargs : StandFor operands (Expr.allSubexpressions args)) :
    StandFor operands e.subexpressions := by
  cases h with
  | extract => exact absurd rfl hname
  | and | or | notEqual | notLike | between | comparison | unary | function =>
    simpa [Expr.subexpressions, Expr.allSubexpressions] using hargs.inside rfl

/-- A call has the leaves of its arguments, and the extraction of a part of a date has the part in
front of them. -/
lemma standFor_callExpr {name : String} {args : List Expr} {options : List String} {e : Expr}
    (h : callExpr name args options = .ok e) {operands : List Operand}
    (hargs : StandFor operands (Expr.allSubexpressions args)) :
    StandFor ((if name = "extract" then options.map .option else []) ++ operands)
      e.subexpressions := by
  split_ifs with hname
  · subst hname
    obtain ⟨part, hpart, h⟩ := bind_eq_ok.mp h
    cases h
    rw [eq_singleton_of_chosenDatePart hpart, Expr.subexpressions, Expr.allSubexpressions,
      Expr.subexpressions]
    exact ((StandFor.leaf rfl rfl).append hargs).inside rfl
  · exact (isCallOf_of_callExpr h).standFor hname hargs

/-- A field of the input is the only operand of a reference and the only leaf of its column. -/
lemma standFor_column {reference : FieldReference} {e : Expr} (h : reference.column = .ok e) :
    StandFor ((Expression.selection reference).operands functions) e.subexpressions := by
  cases reference with
  | structField field hasChild =>
    simp only [FieldReference.column] at h
    split_ifs at h with hchild hfield
    cases h
    have hposition : (field.toInt + 1).toNat = field.toInt.toNat + 1 := by
      have := Int32.lt_iff_toInt_lt.not.mp hfield
      rw [Int32.toInt_zero] at this
      omega
    exact StandFor.leaf rfl (by rw [Operand.leaf?, if_neg hfield, hposition])
  | _ => cases h

mutual

/-- An expression has the same leaves after its lowering. -/
lemma Expression.standFor_lower (e : Expression) {e' : Expr} (h : e.lower functions = .ok e') :
    StandFor (e.operands functions) e'.subexpressions := by
  match e with
  | .unset => cases h
  | .nestedUnset => cases h
  | .other kind => cases h
  | .literal l =>
    rw [Expression.lower] at h
    obtain ⟨v, hv, rfl⟩ := map_eq_ok.mp h
    exact .leaf rfl (by rw [Operand.leaf?, hv]; rfl)
  | .selection reference => exact standFor_column h
  | .call anchor arguments =>
    simp only [Expression.lower, bind_eq_ok] at h
    obtain ⟨name, hname, ⟨args, options⟩, hargs, h⟩ := h
    have hextracts : extractsPart functions anchor = decide (plainName name = "extract") := by
      rw [extractsPart, FunctionTable.find_eq_ok.mp hname]
      rfl
    obtain ⟨rfl, -⟩ := options_of_lowerArguments arguments hargs
    have hcall := standFor_callExpr h (standFor_lowerArguments arguments hargs)
    simpa only [Expression.operands, hextracts, decide_eq_true_eq] using hcall
  | .ifThen clauses otherwise =>
    simp only [Expression.lower, bind_eq_ok] at h
    obtain ⟨arms, harms, result, hresult, h⟩ := h
    cases h
    exact ((standFor_lowerClauses clauses harms).append
      (standFor_lowerRequired otherwise hresult)).inside rfl
  | .cast target input =>
    simp only [Expression.lower, bind_eq_ok] at h
    obtain ⟨target', -, type, -, operand, hoperand, h⟩ := h
    cases h
    exact (standFor_lowerRequired input hoperand).inside rfl
  | .inList value options =>
    simp only [Expression.lower, bind_eq_ok] at h
    obtain ⟨value', hvalue, options', hoptions, h⟩ := h
    cases h
    exact ((standFor_lowerRequired value hvalue).append
      (standFor_lowerAll options hoptions)).inside rfl
  | .nestedStruct fields =>
    simp only [Expression.lower, bind_eq_ok] at h
    obtain ⟨fields', hfields, h⟩ := h
    cases h
    exact (standFor_lowerAll fields hfields).inside rfl
  | .nestedList items =>
    simp only [Expression.lower, bind_eq_ok] at h
    obtain ⟨items', hitems, h⟩ := h
    cases h
    exact (standFor_lowerAll items hitems).inside rfl
  | .nestedMap [] => cases h
  | .nestedMap [.mk key value] =>
    simp only [Expression.lower, bind_eq_ok] at h
    obtain ⟨key', hkey, value', hvalue, h⟩ := h
    cases h
    rw [Expression.operands, entryOperands, entryOperands, List.append_nil]
    exact ((standFor_lowerRequired key hkey).append
      (standFor_lowerRequired value hvalue)).inside rfl
  | .nestedMap (.mk _ _ :: _ :: _) => cases h

lemma standFor_lowerAll (es : List Expression) {es' : List Expr}
    (h : lowerAll functions es = .ok es') :
    StandFor (allOperands functions es) (Expr.allSubexpressions es') := by
  match es with
  | [] =>
    cases h
    rfl
  | e :: es =>
    simp only [lowerAll, bind_eq_ok] at h
    obtain ⟨e', he, rest, hrest, h⟩ := h
    cases h
    exact (e.standFor_lower he).append (standFor_lowerAll es hrest)

lemma standFor_lowerRequired {field : String} (e : Option Expression) {e' : Expr}
    (h : lowerRequired functions field e = .ok e') :
    StandFor (optionalOperands functions e) e'.subexpressions := by
  match e with
  | none => cases h
  | some e =>
    rw [lowerRequired] at h
    exact e.standFor_lower h

/-- Options are operands of their call and not of its arguments. -/
lemma standFor_lowerArguments (arguments : List Argument) {args : List Expr}
    {options : List String} (h : lowerArguments functions arguments = .ok (args, options)) :
    StandFor (argumentOperands functions arguments) (Expr.allSubexpressions args) := by
  match arguments with
  | [] =>
    cases h
    rfl
  | .unset :: _ => cases h
  | .type :: _ => cases h
  | .option name :: rest =>
    simp only [lowerArguments, bind_eq_ok] at h
    obtain ⟨⟨args', options'⟩, hrest, h⟩ := h
    cases h
    exact standFor_lowerArguments rest hrest
  | .value e :: rest =>
    simp only [lowerArguments, bind_eq_ok] at h
    obtain ⟨e', he, ⟨args', options'⟩, hrest, h⟩ := h
    cases h
    exact (e.standFor_lower he).append (standFor_lowerArguments rest hrest)

lemma standFor_lowerClauses (clauses : List Clause) {arms : List (Expr × Expr)}
    (h : lowerClauses functions clauses = .ok arms) :
    StandFor (clauseOperands functions clauses) (Expr.armSubexpressions arms) := by
  match clauses with
  | [] =>
    cases h
    rfl
  | .mk condition result :: rest =>
    simp only [lowerClauses, bind_eq_ok] at h
    obtain ⟨condition', hcondition, result', hresult, arms', harms, h⟩ := h
    cases h
    exact ((standFor_lowerRequired condition hcondition).append
      (standFor_lowerRequired result hresult)).append (standFor_lowerClauses rest harms)

end

/-- A struct has the same leaves with its fields named. -/
lemma leaves_nameColumn (names : NameStream) (e : Expr) :
    (names.nameColumn e).1.leaves = e.leaves := by
  obtain h | ⟨fields, _, _, rfl, hnames, h⟩ := names.fst_nameColumn e
  · rw [h]
  · rw [h, Expr.leaves, Expr.subexpressions,
      Expr.fieldSubexpressions_zip (NameStream.length_fieldNames? hnames)]
    rfl

/-- An expression is lowered to another one, be it as an output column, at which some of the names
of output columns have been passed, or in any other place. -/
def Expression.LowersTo (functions : FunctionTable) (e : Expression) (r : Expr) : Prop :=
  e.lower functions = .ok r ∨ ∃ names, (e.lowerColumn functions names).1 = .ok r

/-- The leaves of a lowered expression are what the operands of the expression stand for: none is
missing, none is there twice, and they stand in the same order. -/
theorem Expression.map_leaf?_operands {e : Expression} {r : Expr} (h : e.LowersTo functions r) :
    (e.operands functions).map Operand.leaf? = r.leaves.map some := by
  obtain h | ⟨names, h⟩ := h
  · exact e.standFor_lower h
  · rw [Expression.lowerColumn_eq] at h
    split at h
    · cases h
    · rename_i e' he
      cases h
      rw [leaves_nameColumn]
      exact e.standFor_lower he

/-- The extraction of parts of a date and inequality under two anchors. -/
def yearFunctions : FunctionTable :=
  .ofDeclarations [.function 0 1 "extract:req_date", .function 0 2 "not_equal:str_str"]

/-- The year of the first column as the only field of a struct, unless the second column is the
text `n`. -/
def yearUnless : Expression :=
  .nestedStruct [.ifThen
    [.mk (some (.call 2 [.value (.selection (.structField 1 false)),
        .value (.literal ⟨.string "n", false⟩)]))
      (some (.call 1 [.value (.selection (.structField 0 false)), .option "year"]))]
    (some (.literal ⟨.null, true⟩))]

/-- What that expression is lowered to where a name for the field is left. -/
def namedYear : Expr :=
  .struct [("y", .case [(.call "!~~" [.column 2, .constant (.varchar "n")] false,
    .call "date_part" [.constant (.varchar "year"), .column 1] false)] (.constant .null))]

/-- The part of the date has come in front of the date, and all other leaves stand as they did. -/
theorem Expression.map_leaf?_operands_yearUnless :
    yearUnless.LowersTo yearFunctions namedYear ∧
      (yearUnless.operands yearFunctions).map Operand.leaf? = namedYear.leaves.map some ∧
      namedYear.leaves = [.column 2, .constant (.varchar "n"), .constant (.varchar "year"),
        .column 1, .constant .null] := by
  have h : yearUnless.LowersTo yearFunctions namedYear := .inr ⟨⟨["s", "y"], 0⟩, rfl⟩
  exact ⟨h, map_leaf?_operands h, rfl⟩

end Plan

end PlanImport
