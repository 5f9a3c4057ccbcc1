import PlanImport.Lowering.Expression
import PlanImport.Proofs.Lowering.Expression

/-!
# Names of fields in output columns

The names of output columns only decide which of the constructed structs get named fields. So the
lowering of the columns of a projection with names is the lowering without names, followed by a
pass over the lowered columns that knows nothing of the plan.
-/

namespace PlanImport

open Engine Plan

/-! ### The pass -/

namespace NameStream

/-- The names for so many fields, with the names after them: some name has to be left, and the
next ones have to be there and differ. -/
def fieldNames? (s : NameStream) (count : Nat) : Option (List String × NameStream) :=
  if !s.isDone && s.hasDistinct count then s.take? count else none

/-- An output column with its names, and the names after them. -/
def nameColumn (s : NameStream) : Expr → Expr × NameStream
  | .row fields =>
    match s.skip.fieldNames? fields.length with
    | some (names, rest) => (.struct (names.zip fields), rest)
    | none => (.row fields, s.skip)
  | e => (e, s.skip)

/-- Output columns with their names. -/
def nameColumns (s : NameStream) : List Expr → List Expr
  | [] => []
  | e :: rest => (s.nameColumn e).1 :: (s.nameColumn e).2.nameColumns rest

/-- The names after those of output columns. -/
def passColumns (s : NameStream) : List Expr → NameStream
  | [] => s
  | e :: rest => (s.nameColumn e).2.passColumns rest

@[simp] lemma nameColumns_nil (s : NameStream) : s.nameColumns [] = [] := rfl

@[simp] lemma nameColumns_cons (s : NameStream) (e : Expr) (rest : List Expr) :
    s.nameColumns (e :: rest) = (s.nameColumn e).1 :: (s.nameColumn e).2.nameColumns rest := rfl

@[simp] lemma passColumns_nil (s : NameStream) : s.passColumns [] = s := rfl

@[simp] lemma passColumns_cons (s : NameStream) (e : Expr) (rest : List Expr) :
    s.passColumns (e :: rest) = (s.nameColumn e).2.passColumns rest := rfl

@[simp] lemma length_nameColumns (s : NameStream) (es : List Expr) :
    (s.nameColumns es).length = es.length := by
  induction es generalizing s with
  | nil => rfl
  | cons e rest ih => simp [ih]

/-- The column at a place takes its names where those of the columns before it end. -/
lemma getElem?_nameColumns (s : NameStream) (es : List Expr) (i : Nat) :
    (s.nameColumns es)[i]? = es[i]?.map fun e => ((s.passColumns (es.take i)).nameColumn e).1 := by
  induction es generalizing s i with
  | nil => simp
  | cons e rest ih =>
    cases i with
    | zero => simp
    | succ i => simp [ih]

lemma nameColumn_of_ne_row (s : NameStream) {e : Expr} (h : ∀ fields, e ≠ .row fields) :
    s.nameColumn e = (e, s.skip) := by
  cases e with
  | row fields => exact absurd rfl (h fields)
  | _ => rfl

/-- A column passes its own name and stays as it is, unless it is a constructed struct whose fields
take names, which pass these as well. -/
lemma nameColumn_cases (s : NameStream) (e : Expr) :
    s.nameColumn e = (e, s.skip) ∨ ∃ fields names rest, e = .row fields ∧
      s.skip.fieldNames? fields.length = some (names, rest) ∧
      s.nameColumn e = (.struct (names.zip fields), rest) := by
  by_cases he : ∃ fields, e = .row fields
  · obtain ⟨fields, rfl⟩ := he
    rw [nameColumn]
    split
    · rename_i names rest hnames
      exact .inr ⟨fields, names, rest, rfl, hnames, rfl⟩
    · exact .inl rfl
  · exact .inl (nameColumn_of_ne_row s fun fields h => he ⟨fields, h⟩)

lemma fst_nameColumn (s : NameStream) (e : Expr) :
    (s.nameColumn e).1 = e ∨ ∃ fields names rest, e = .row fields ∧
      s.skip.fieldNames? fields.length = some (names, rest) ∧
      (s.nameColumn e).1 = .struct (names.zip fields) := by
  obtain h | ⟨fields, names, rest, he, hnames, h⟩ := s.nameColumn_cases e
  · exact .inl (by rw [h])
  · exact .inr ⟨fields, names, rest, he, hnames, by rw [h]⟩

/-- Without constructed structs there is nothing to name. -/
lemma nameColumns_of_ne_row (s : NameStream) {es : List Expr}
    (h : ∀ e ∈ es, ∀ fields, e ≠ .row fields) : s.nameColumns es = es := by
  induction es generalizing s with
  | nil => rfl
  | cons e rest ih =>
    rw [nameColumns_cons, nameColumn_of_ne_row s (h e (by simp)),
      ih s.skip fun e' he' => h e' (List.mem_cons_of_mem _ he')]

end NameStream

/-! ### Constructed structs -/

namespace Plan

lemma callExpr_ne_row {name : String} {args : List Expr} {options : List String} {e : Expr}
    (h : callExpr name args options = .ok e) (fields : List Expr) : e ≠ .row fields := by
  rintro rfl
  cases isCallOf_of_callExpr h

/-- Only the constructor of a struct is lowered to a struct with fields in order. -/
lemma Expression.exists_of_lower_eq_row {functions : FunctionTable} {e : Expression}
    {fields : List Expr} (h : e.lower functions = .ok (.row fields)) :
    ∃ es, e = .nestedStruct es ∧ lowerAll functions es = .ok fields := by
  cases e with
  | nestedStruct es =>
    simp only [Expression.lower, bind_eq_ok] at h
    obtain ⟨fields', hes, hf⟩ := h
    cases hf
    exact ⟨es, rfl, hes⟩
  | unset | nestedUnset | other => cases h
  | literal l =>
    simp only [Expression.lower, map_eq_ok] at h
    obtain ⟨v, -, hv⟩ := h
    cases hv
  | selection reference =>
    simp only [Expression.lower] at h
    cases reference with
    | structField field hasChild =>
      simp only [FieldReference.column] at h
      split_ifs at h
      cases h
    | _ => cases h
  | call anchor arguments =>
    -- The name of a function is free, but no name makes a row.
    simp only [Expression.lower, bind_eq_ok] at h
    obtain ⟨name, -, ⟨args, options⟩, -, hcall⟩ := h
    exact absurd rfl (callExpr_ne_row hcall fields)
  | ifThen clauses otherwise =>
    simp only [Expression.lower, bind_eq_ok] at h
    obtain ⟨arms, -, result, -, hr⟩ := h
    cases hr
  | cast target input =>
    simp only [Expression.lower, bind_eq_ok] at h
    obtain ⟨target', -, type, -, operand, -, hr⟩ := h
    cases hr
  | inList value options =>
    simp only [Expression.lower, bind_eq_ok] at h
    obtain ⟨value', -, options', -, hr⟩ := h
    cases hr
  | nestedList items =>
    simp only [Expression.lower, bind_eq_ok] at h
    obtain ⟨items', -, hr⟩ := h
    cases hr
  | nestedMap entries =>
    rcases entries with _ | ⟨⟨key, value⟩, _ | ⟨entry, rest⟩⟩
    · simp [Expression.lower] at h
    · simp only [Expression.lower, bind_eq_ok] at h
      obtain ⟨key', -, value', -, hr⟩ := h
      cases hr
    · simp [Expression.lower] at h

/-- Expressions are lowered one by one. -/
lemma getElem?_lowerAll {functions : FunctionTable} {es : List Expression} {rows : List Expr}
    (h : lowerAll functions es = .ok rows) (i : Nat) :
    (es[i]? = none ∧ rows[i]? = none) ∨
      ∃ e row, es[i]? = some e ∧ rows[i]? = some row ∧ e.lower functions = .ok row := by
  induction es generalizing rows i with
  | nil =>
    cases h
    simp
  | cons e es ih =>
    simp only [lowerAll, bind_eq_ok] at h
    obtain ⟨row, he, rows, hes, h⟩ := h
    cases h
    cases i with
    | zero => exact .inr ⟨e, row, rfl, rfl, he⟩
    | succ i => simpa using ih hes i

lemma length_lowerAll {functions : FunctionTable} {es : List Expression} {rows : List Expr}
    (h : lowerAll functions es = .ok rows) : rows.length = es.length := by
  induction es generalizing rows with
  | nil =>
    cases h
    rfl
  | cons e es ih =>
    simp only [lowerAll, bind_eq_ok] at h
    obtain ⟨row, -, rows, hes, h⟩ := h
    cases h
    rw [List.length_cons, List.length_cons, ih hes]

/-- The constructors of structs are those that are lowered to structs with fields in order. -/
lemma getElem?_lowerAll_nestedStruct {functions : FunctionTable} {es fields : List Expression}
    {rows : List Expr} (h : lowerAll functions es = .ok rows) {i : Nat}
    (hi : es[i]? = some (.nestedStruct fields)) :
    ∃ columns, rows[i]? = some (.row columns) ∧ columns.length = fields.length := by
  rcases getElem?_lowerAll h i with ⟨hn, -⟩ | ⟨e, row, he, hrow, hlower⟩
  · rw [hi] at hn
    cases hn
  · rw [hi] at he
    cases he
    simp only [Expression.lower, bind_eq_ok] at hlower
    obtain ⟨columns, hc, hr⟩ := hlower
    cases hr
    exact ⟨columns, hrow, length_lowerAll hc⟩

/-- Only a nested struct is lowered to a row, so its fields can be named. -/
lemma getElem?_lowerAll_row {functions : FunctionTable} {es : List Expression}
    {rows columns : List Expr} (h : lowerAll functions es = .ok rows) {i : Nat}
    (hi : rows[i]? = some (.row columns)) :
    ∃ fields, es[i]? = some (.nestedStruct fields) ∧ columns.length = fields.length := by
  rcases getElem?_lowerAll h i with ⟨-, hn⟩ | ⟨e, row, he, hrow, hlower⟩
  · rw [hi] at hn
    cases hn
  · rw [hi] at hrow
    cases hrow
    obtain ⟨fields, rfl, hc⟩ := Expression.exists_of_lower_eq_row hlower
    exact ⟨fields, he, length_lowerAll hc⟩

/-! ### The lowering with names -/

lemma Expression.lowerColumn_of_ne_struct (functions : FunctionTable) (s : NameStream)
    {e : Expression} (h : ∀ es, e ≠ .nestedStruct es) :
    e.lowerColumn functions s = (e.lower functions, s.skip) := by
  cases e with
  | nestedStruct es => exact absurd rfl (h es)
  | _ => rfl

/-- An output column is lowered without names and then named. -/
lemma Expression.lowerColumn_eq (functions : FunctionTable) (s : NameStream) (e : Expression) :
    e.lowerColumn functions s = match e.lower functions with
      | .error refusal => (.error refusal, s.skip)
      | .ok e => (.ok (s.nameColumn e).1, (s.nameColumn e).2) := by
  by_cases he : ∃ es, e = .nestedStruct es
  · obtain ⟨es, rfl⟩ := he
    simp only [Expression.lowerColumn, Expression.lower]
    cases lowerAll functions es with
    | error refusal => rfl
    | ok fields =>
      simp only [NameStream.nameColumn, NameStream.fieldNames?, bind, Except.bind, pure,
        Except.pure]
      split_ifs
      · cases s.skip.take? fields.length <;> rfl
      · rfl
  · rw [Expression.lowerColumn_of_ne_struct functions s fun es h => he ⟨es, h⟩]
    cases hl : e.lower functions with
    | error refusal => rfl
    | ok e' =>
      have hrow : ∀ fields, e' ≠ .row fields := by
        rintro fields rfl
        obtain ⟨es, h, -⟩ := Expression.exists_of_lower_eq_row hl
        exact he ⟨es, h⟩
      simp only [NameStream.nameColumn_of_ne_row s hrow]

/-- The output columns of a projection are lowered without names and then named. -/
lemma lowerColumns_eq (functions : FunctionTable) (s : NameStream) (es : List Expression) :
    lowerColumns functions s es = (lowerAll functions es).map s.nameColumns := by
  induction es generalizing s with
  | nil => rfl
  | cons e rest ih =>
    rw [lowerColumns, lowerAll, Expression.lowerColumn_eq]
    cases e.lower functions with
    | error refusal => rfl
    | ok e =>
      simp only [ih]
      cases lowerAll functions rest <;> rfl

end Plan

end PlanImport
