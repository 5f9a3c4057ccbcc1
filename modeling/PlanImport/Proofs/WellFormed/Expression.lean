import PlanImport.Lowering.Expression
import PlanImport.Proofs.Lowering.Constant
import PlanImport.Proofs.Lowering.Expression
import PlanImport.Proofs.WellFormed.Basic

/-!
# Expressions are lowered to well-formed ones

Decimals are stored as their width demands, positions of fields from zero become positions of
columns from one, and nothing that the lowering of an expression builds is distinct or has named
fields.
-/

namespace PlanImport.Plan

open Engine

variable {functions : FunctionTable}

/-! ### Constants -/

/-- The width selects the integer type. -/
lemma isOfWidth_of_ofWidth? {n : Int128} {width : UInt8} {stored : SizedInt}
    (h : SizedInt.ofWidth? n width = some stored) (hlow : 1 ≤ width.toNat)
    (hhigh : width.toNat ≤ 38) : stored.IsOfWidth width.toNat := by
  unfold SizedInt.ofWidth? at h
  simp only [UInt8.le_iff_toNat_le] at h
  split_ifs at h <;> cases h <;> simp_all [SizedInt.IsOfWidth] <;> omega

/-- The tests on a literal are those that a stored decimal has to meet. -/
lemma DecimalLiteral.wellFormed_value {d : DecimalLiteral} {v : Value} (h : d.value = .ok v) :
    v.WellFormed := by
  obtain ⟨width, scale, stored, -, hw, hs, hv, rfl⟩ := value_eq_ok.mp h
  obtain ⟨hprecision, hwidth⟩ := width?_eq_some_iff.mp hw
  obtain ⟨hle, hscale⟩ := scale?_eq_some_iff.mp hs
  have hlow : 1 ≤ width.toNat := by omega
  have hhigh : width.toNat ≤ 38 := by omega
  exact ⟨hlow, hhigh, by omega, isOfWidth_of_ofWidth? hv hlow hhigh⟩

/-- Only decimals have anything to be well formed in. -/
lemma Literal.wellFormed_value {l : Literal} {v : Value} (h : l.value = .ok v) : v.WellFormed := by
  obtain ⟨kind, nullable⟩ := l
  cases kind with
  | decimal d => exact d.wellFormed_value h
  | unset | other => cases h
  | null | boolean | i32 | i64 | fp32 | fp64 | string | date | time =>
    cases h
    trivial
  | i8 | i16 =>
    obtain ⟨n, -, rfl⟩ := map_eq_ok.mp h
    trivial
  | yearMonth years months =>
    obtain ⟨folded, total, -, -, rfl⟩ := yearMonthValue_eq_ok.mp h
    trivial
  | daySecond i =>
    obtain ⟨part, micros, -, -, rfl⟩ := i.value_eq_ok.mp h
    trivial

/-! ### Calls -/

/-- Fields are counted from zero, so the column that follows is positive. -/
lemma FieldReference.wellFormed_column {reference : FieldReference} {e : Expr}
    (h : reference.column = .ok e) : e.WellFormed := by
  cases reference with
  | structField field hasChild =>
    simp only [FieldReference.column] at h
    split_ifs at h
    cases h
    exact Nat.le_add_left 1 _
  | _ => cases h

lemma wellFormed_callExpr {name : String} {args : List Expr} {options : List String} {e : Expr}
    (hargs : ∀ arg ∈ args, arg.WellFormed) (h : callExpr name args options = .ok e) :
    e.WellFormed := by
  cases isCallOf_of_callExpr h with
  | and | or | notEqual | notLike | between | comparison | unary | function =>
    simpa [Expr.WellFormed] using hargs
  | extract part => simpa [Expr.WellFormed, Value.WellFormed] using hargs

/-! ### Expressions -/

mutual

/-- What an expression is lowered to is well formed. -/
lemma Expression.wellFormed_lower (e : Expression) {e' : Expr} (h : e.lower functions = .ok e') :
    e'.WellFormed := by
  match e with
  | .unset => cases h
  | .nestedUnset => cases h
  | .other kind => cases h
  | .literal l =>
    obtain ⟨v, hv, rfl⟩ := map_eq_ok.mp h
    exact l.wellFormed_value hv
  | .selection reference => exact reference.wellFormed_column h
  | .call anchor arguments =>
    simp only [Expression.lower, bind_eq_ok] at h
    obtain ⟨name, -, ⟨args, options⟩, hargs, hcall⟩ := h
    exact wellFormed_callExpr (wellFormed_lowerArguments arguments hargs) hcall
  | .ifThen clauses otherwise =>
    simp only [Expression.lower, bind_eq_ok] at h
    obtain ⟨arms, harms, result, hresult, h⟩ := h
    cases h
    exact ⟨wellFormed_lowerClauses clauses harms, wellFormed_lowerRequired otherwise hresult⟩
  | .cast target input =>
    simp only [Expression.lower, bind_eq_ok] at h
    obtain ⟨target', -, type, -, operand, hoperand, h⟩ := h
    cases h
    rw [Expr.WellFormed]
    exact wellFormed_lowerRequired input hoperand
  | .inList value options =>
    simp only [Expression.lower, bind_eq_ok] at h
    obtain ⟨value', hvalue, options', hoptions, h⟩ := h
    cases h
    exact ⟨wellFormed_lowerRequired value hvalue,
      Expr.allWellFormed_iff.mpr (wellFormed_lowerAll options hoptions)⟩
  | .nestedStruct fields =>
    simp only [Expression.lower, bind_eq_ok] at h
    obtain ⟨fields', hfields, h⟩ := h
    cases h
    exact Expr.allWellFormed_iff.mpr (wellFormed_lowerAll fields hfields)
  | .nestedList items =>
    simp only [Expression.lower, bind_eq_ok] at h
    obtain ⟨items', hitems, h⟩ := h
    cases h
    exact Expr.allWellFormed_iff.mpr (wellFormed_lowerAll items hitems)
  | .nestedMap [] => cases h
  | .nestedMap [.mk key value] =>
    simp only [Expression.lower, bind_eq_ok] at h
    obtain ⟨key', hkey, value', hvalue, h⟩ := h
    cases h
    exact ⟨wellFormed_lowerRequired key hkey, wellFormed_lowerRequired value hvalue⟩
  | .nestedMap (.mk _ _ :: _ :: _) => cases h

lemma wellFormed_lowerAll (es : List Expression) {es' : List Expr}
    (h : lowerAll functions es = .ok es') : ∀ e ∈ es', e.WellFormed := by
  match es with
  | [] =>
    cases h
    simp
  | e :: es =>
    simp only [lowerAll, bind_eq_ok] at h
    obtain ⟨e', he, rest, hrest, h⟩ := h
    cases h
    exact List.forall_mem_cons.mpr ⟨e.wellFormed_lower he, wellFormed_lowerAll es hrest⟩

lemma wellFormed_lowerRequired {field : String} (e : Option Expression) {e' : Expr}
    (h : lowerRequired functions field e = .ok e') : e'.WellFormed := by
  match e with
  | none => cases h
  | some e =>
    rw [lowerRequired] at h
    exact e.wellFormed_lower h

/-- The values among arguments are well formed; options are texts. -/
lemma wellFormed_lowerArguments (arguments : List Argument) {args : List Expr}
    {options : List String} (h : lowerArguments functions arguments = .ok (args, options)) :
    ∀ e ∈ args, e.WellFormed := by
  match arguments with
  | [] =>
    cases h
    simp
  | .unset :: _ => cases h
  | .type :: _ => cases h
  | .option name :: rest =>
    simp only [lowerArguments, bind_eq_ok] at h
    obtain ⟨⟨args', options'⟩, hrest, h⟩ := h
    cases h
    exact wellFormed_lowerArguments rest hrest
  | .value e :: rest =>
    simp only [lowerArguments, bind_eq_ok] at h
    obtain ⟨e', he, ⟨args', options'⟩, hrest, h⟩ := h
    cases h
    exact List.forall_mem_cons.mpr ⟨e.wellFormed_lower he, wellFormed_lowerArguments rest hrest⟩

lemma wellFormed_lowerClauses (clauses : List Clause) {arms : List (Expr × Expr)}
    (h : lowerClauses functions clauses = .ok arms) : Expr.ArmsWellFormed arms := by
  match clauses with
  | [] =>
    cases h
    trivial
  | .mk condition result :: rest =>
    simp only [lowerClauses, bind_eq_ok] at h
    obtain ⟨condition', hcondition, result', hresult, arms', harms, h⟩ := h
    cases h
    exact ⟨wellFormed_lowerRequired condition hcondition, wellFormed_lowerRequired result hresult,
      wellFormed_lowerClauses rest harms⟩

end

end PlanImport.Plan
