import PlanImport.Engine.Explain
import PlanImport.Proofs.Text.Columns

/-!
# Texts that are shown

Names and constant texts are shown as they are in the text of an expression or a type. So this text
has a line break exactly if one of them has: numbers, dates and the words between them have none.
-/

namespace PlanImport

/-! ### Numbers and dates -/

namespace Text

@[simp] lemma newline_not_mem_toDigits (n : Nat) : '\n' ∉ Nat.toDigits 10 n := by
  intro h
  exact absurd (isDigit_of_mem_digits h) (by decide)

@[simp] lemma newline_not_mem_digits (n : Nat) : '\n' ∉ digits n := newline_not_mem_toDigits n

@[simp] lemma newline_not_mem_padded (width : Nat) (n : Int) : '\n' ∉ padded width n := by
  intro h
  exact absurd (eq_minus_or_isDigit_of_mem_padded h) (by decide)

@[simp] lemma newline_not_mem_decimal (n : Int) : '\n' ∉ decimal n := newline_not_mem_padded 0 n

lemma newline_not_mem_take {cs : List Char} (h : '\n' ∉ cs) (n : Nat) : '\n' ∉ cs.take n :=
  fun hmem => h (List.mem_of_mem_take hmem)

lemma newline_not_mem_drop {cs : List Char} (h : '\n' ∉ cs) (n : Nat) : '\n' ∉ cs.drop n :=
  fun hmem => h (List.mem_of_mem_drop hmem)

/-- A separator without line breaks adds none. -/
@[simp] lemma newline_not_mem_intercalate_iff {separator : List Char} (h : '\n' ∉ separator)
    (texts : List (List Char)) :
    '\n' ∉ separator.intercalate texts ↔ ∀ text ∈ texts, '\n' ∉ text := by
  induction texts with
  | nil => simp
  | cons text rest ih =>
    obtain _ | ⟨next, rest⟩ := rest
    · simp
    · rw [List.intercalate_cons_cons, List.mem_append, List.mem_append, not_or, not_or, ih]
      simp [h]

end Text

namespace Calendar

@[simp] lemma newline_not_mem_dateChars (d : Date) : '\n' ∉ d.chars := by simp [Date.chars]

@[simp] lemma newline_not_mem_clockFields (seconds fraction : Int) :
    '\n' ∉ clockFields seconds fraction := by
  by_cases h : fraction = 0 <;> simp [clockFields, h]

@[simp] lemma newline_not_mem_timestampChars (micros : Int) : '\n' ∉ timestampChars micros := by
  simp [timestampChars, clockChars]

lemma newline_not_mem_amountChars (amount : Int) {unit : List Char} (hunit : '\n' ∉ unit) :
    ∀ part ∈ amountChars amount unit, '\n' ∉ part := by
  unfold amountChars
  split_ifs <;> simp [hunit]

/-- Numbers, units and the marks of a clock are all that is written. -/
@[simp] lemma newline_not_mem_intervalChars (i : Interval) : '\n' ∉ i.chars := by
  have hclock : '\n' ∉ Interval.clockPart i.micros := by
    by_cases hneg : i.micros < 0 <;> simp [Interval.clockPart, hneg]
  have hyear := newline_not_mem_amountChars (i.months.toInt.tdiv 12)
    (show '\n' ∉ "year".toList by simp)
  have hmonth := newline_not_mem_amountChars (i.months.toInt.tmod 12)
    (show '\n' ∉ "month".toList by simp)
  have hday := newline_not_mem_amountChars i.days.toInt (show '\n' ∉ "day".toList by simp)
  rw [Interval.chars, Text.newline_not_mem_intercalate_iff (by simp)]
  intro part hpart
  have hparts : part ∈ amountChars (i.months.toInt.tdiv 12) "year".toList ++
      amountChars (i.months.toInt.tmod 12) "month".toList ++
      amountChars i.days.toInt "day".toList ++ [Interval.clockPart i.micros] := by
    unfold Interval.parts at hpart
    dsimp only at hpart
    split_ifs at hpart
    · exact hpart
    · exact List.mem_append_left _ hpart
  simp only [List.mem_append, List.mem_singleton] at hparts
  obtain ((hpart | hpart) | hpart) | rfl := hparts
  · exact hyear part hpart
  · exact hmonth part hpart
  · exact hday part hpart
  · exact hclock

end Calendar

@[simp] lemma Float.newline_not_mem_chars (f : Format) (bits : Nat) :
    '\n' ∉ chars f plain bits := by
  have hdecimal (d : Decimal) : '\n' ∉ decimalChars plain d := by
    simp only [decimalChars, plain, positionalChars]
    split_ifs <;> simp [Text.newline_not_mem_take, Text.newline_not_mem_drop]
  unfold chars
  split
  · simp
  · split_ifs <;> simp
  · split_ifs <;> simp [hdecimal]

@[simp] lemma Engine.newline_not_mem_decimalChars (unscaled : Int) (scale : Nat) :
    '\n' ∉ decimalChars unscaled scale := by
  unfold decimalChars
  dsimp only
  split_ifs <;> simp [Text.newline_not_mem_take, Text.newline_not_mem_drop]

/-! ### Names and constant texts -/

namespace Engine

def NoBreaks (texts : List String) : Prop := ∀ text ∈ texts, '\n' ∉ text.toList

@[simp] lemma noBreaks_nil : NoBreaks [] := List.forall_mem_nil _

@[simp] lemma noBreaks_cons (text : String) (rest : List String) :
    NoBreaks (text :: rest) ↔ '\n' ∉ text.toList ∧ NoBreaks rest := List.forall_mem_cons

@[simp] lemma noBreaks_append (texts rest : List String) :
    NoBreaks (texts ++ rest) ↔ NoBreaks texts ∧ NoBreaks rest := List.forall_mem_append

@[simp] lemma noBreaks_flatMap {α : Type} (f : α → List String) (xs : List α) :
    NoBreaks (xs.flatMap f) ↔ ∀ x ∈ xs, NoBreaks (f x) := List.forall_mem_flatMap

namespace SqlType

mutual

def shown : SqlType → List String
  | list element => element.shown
  | struct fields => shownFields fields
  | map key value => key.shown ++ value.shown
  | _ => []

def shownFields : List (String × SqlType) → List String
  | [] => []
  | (name, type) :: rest => name :: type.shown ++ shownFields rest

end

mutual

/-- The text of a type has line breaks only from the names in it. -/
lemma newline_not_mem_text_iff (t : SqlType) : '\n' ∉ t.text.toList ↔ NoBreaks t.shown := by
  match t with
  | list element => simp [text, shown, newline_not_mem_text_iff element]
  | struct fields => simp [text, shown, forall_mem_fieldTexts_iff fields]
  | map key value =>
    simp [text, shown, newline_not_mem_text_iff key, newline_not_mem_text_iff value]
  | decimal width scale => simp [text, shown, toString]
  | sqlNull | unknown | boolean | tinyInt | smallInt | integer | bigInt | uBigInt | float
  | double | date | time | timestamp | interval | varchar => simp [text, shown]

lemma forall_mem_fieldTexts_iff (fields : List (String × SqlType)) :
    (∀ s ∈ fieldTexts fields, '\n' ∉ s.toList) ↔ NoBreaks (shownFields fields) := by
  match fields with
  | [] => rfl
  | (name, type) :: rest =>
    simp [fieldTexts, shownFields, newline_not_mem_text_iff type, forall_mem_fieldTexts_iff rest,
      and_assoc]

end

end SqlType

namespace Value

mutual

def shown : Value → List String
  | varchar s => [s]
  | list items => shownAll items
  | _ => []

def shownAll : List Value → List String
  | [] => []
  | v :: rest => v.shown ++ shownAll rest

end

mutual

/-- The text of a value has line breaks only from the texts in it. -/
lemma newline_not_mem_text_iff (v : Value) : '\n' ∉ v.text.toList ↔ NoBreaks v.shown := by
  match v with
  | varchar s => simp [text, shown]
  | list items => simp [text, shown, forall_mem_texts_iff items]
  | boolean b => cases b <;> simp [text, shown]
  | time micros => simp [text, shown, Calendar.clockChars]
  | null | tinyInt _ | smallInt _ | integer _ | bigInt _ | uBigInt _ | float _ | double _
  | date _ | timestamp _ | interval _ | decimal .. => simp [text, shown]

lemma forall_mem_texts_iff (values : List Value) :
    (∀ s ∈ texts values, '\n' ∉ s.toList) ↔ NoBreaks (shownAll values) := by
  match values with
  | [] => rfl
  | v :: rest => simp [texts, shownAll, newline_not_mem_text_iff v, forall_mem_texts_iff rest]

end

end Value

lemma newline_mem_quotedConstant_iff (s : String) :
    '\n' ∈ (quotedConstant s).toList ↔ '\n' ∈ s.toList := by
  have hquoted (c : Char) : '\n' ∈ (if c = '\x27' then [c, c] else [c]) ↔ '\n' = c := by
    split_ifs <;> simp
  simp [quotedConstant, hquoted]

namespace Expr

mutual

def shown : Expr → List String
  | constant v => v.shown
  | column _ => []
  | call name args _ => name :: shownAll args
  | conjunction _ children => shownAll children
  | comparison _ left right => left.shown ++ right.shown
  | unary _ operand => operand.shown
  | case arms otherwise => shownArms arms ++ otherwise.shown
  | cast target operand => operand.shown ++ target.shown
  | between input lower upper => input.shown ++ lower.shown ++ upper.shown
  | inList value options => value.shown ++ shownAll options
  | struct fields => shownFields fields
  | row fields => shownAll fields
  | list items => shownAll items
  | map key value => key.shown ++ value.shown

def shownAll : List Expr → List String
  | [] => []
  | e :: rest => e.shown ++ shownAll rest

def shownArms : List (Expr × Expr) → List String
  | [] => []
  | (condition, result) :: rest => condition.shown ++ result.shown ++ shownArms rest

def shownFields : List (String × Expr) → List String
  | [] => []
  | (name, e) :: rest => name :: e.shown ++ shownFields rest

end

mutual

/-- The text of an expression has line breaks only from the texts and names in it. -/
lemma newline_not_mem_text_iff (e : Expr) : '\n' ∉ e.text.toList ↔ NoBreaks e.shown := by
  match e with
  | constant (.varchar s) => simp [text, shown, Value.shown, newline_mem_quotedConstant_iff]
  | constant .null | constant (.boolean _) | constant (.tinyInt _) | constant (.smallInt _)
  | constant (.integer _) | constant (.bigInt _) | constant (.uBigInt _) | constant (.float _)
  | constant (.double _) | constant (.date _) | constant (.time _) | constant (.timestamp _)
  | constant (.interval _) | constant (.decimal ..) | constant (.list _) =>
    exact Value.newline_not_mem_text_iff _
  | column position => simp [text, shown]
  | call name args distinct =>
    cases distinct <;> simp [text, shown, forall_mem_texts_iff args]
  | conjunction op children =>
    cases op <;> simp [text, shown, forall_mem_texts_iff children]
  | comparison op left right =>
    cases op <;>
      simp [text, shown, Comparison.text, newline_not_mem_text_iff left,
        newline_not_mem_text_iff right]
  | unary op operand => cases op <;> simp [text, shown, newline_not_mem_text_iff operand]
  | case arms otherwise =>
    simp [text, shown, newline_not_mem_armsText_iff arms, newline_not_mem_text_iff otherwise]
  | cast target operand =>
    simp [text, shown, newline_not_mem_text_iff operand, target.newline_not_mem_text_iff]
  | between input lower upper =>
    simp [text, shown, newline_not_mem_text_iff input, newline_not_mem_text_iff lower,
      newline_not_mem_text_iff upper]
  | inList value options =>
    simp [text, shown, newline_not_mem_text_iff value, forall_mem_texts_iff options]
  | struct fields => simp [text, shown, forall_mem_fieldTexts_iff fields]
  | row fields => simp [text, shown, forall_mem_texts_iff fields]
  | list items => simp [text, shown, forall_mem_texts_iff items]
  | map key value =>
    simp [text, shown, newline_not_mem_text_iff key, newline_not_mem_text_iff value]

lemma forall_mem_texts_iff (es : List Expr) :
    (∀ s ∈ texts es, '\n' ∉ s.toList) ↔ NoBreaks (shownAll es) := by
  match es with
  | [] => rfl
  | e :: rest => simp [texts, shownAll, newline_not_mem_text_iff e, forall_mem_texts_iff rest]

lemma newline_not_mem_armsText_iff (arms : List (Expr × Expr)) :
    '\n' ∉ (armsText arms).toList ↔ NoBreaks (shownArms arms) := by
  match arms with
  | [] => simp [armsText, shownArms]
  | (condition, result) :: rest =>
    simp [armsText, shownArms, newline_not_mem_text_iff condition, newline_not_mem_text_iff result,
      newline_not_mem_armsText_iff rest]

lemma forall_mem_fieldTexts_iff (fields : List (String × Expr)) :
    (∀ s ∈ fieldTexts fields, '\n' ∉ s.toList) ↔ NoBreaks (shownFields fields) := by
  match fields with
  | [] => rfl
  | (name, e) :: rest =>
    simp [fieldTexts, shownFields, newline_not_mem_text_iff e, forall_mem_fieldTexts_iff rest,
      and_assoc]

end

end Expr

/-- The names of a table or a view and of its columns, and those in their types. -/
def TableInfo.shown (t : TableInfo) : List String :=
  [t.schema, t.name] ++ t.columns.flatMap fun c => c.name :: c.type.shown

/-- The names in the name of a target. -/
def TargetName.shown (t : TargetName) : List String := t.schema.toList ++ [t.name]

lemma TableInfo.newline_not_mem_text_iff (t : TableInfo) :
    '\n' ∉ t.text.toList ↔ NoBreaks t.shown := by
  simp [text, shown, key, qualifiedName, SqlType.newline_not_mem_text_iff]

lemma TargetName.newline_not_mem_text_iff (t : TargetName) :
    '\n' ∉ t.text.toList ↔ NoBreaks t.shown := by
  obtain ⟨_ | schema, name⟩ := t <;> simp [text, shown, qualifiedName]

lemma SortKey.newline_not_mem_text_iff (k : SortKey) :
    '\n' ∉ k.text.toList ↔ NoBreaks k.expr.shown := by
  obtain ⟨direction, nulls, e⟩ := k
  cases direction <;> cases nulls <;> simp [text, e.newline_not_mem_text_iff]

namespace Relation

/-- The names and constant texts in the headline of a relation. A name without an expression is not
among them. -/
def ownShown : Relation → List String
  | table info _ => info.shown
  | view info _ => info.shown
  | tableFunction name parameters namedParameters _ =>
    name :: Value.shownAll parameters ++ namedParameters.flatMap fun (key, v) => key :: v.shown
  | inline .. => []
  | aliased name _ => [name]
  | filter _ condition => condition.shown
  | project _ expressions names =>
    (expressions.zip names).flatMap fun (e, name) => e.shown ++ [name]
  | aggregate _ expressions groups => Expr.shownAll expressions ++ Expr.shownAll groups
  | join _ _ condition _ => condition.shown
  | product .. => []
  | limit .. => []
  | sort _ keys => keys.flatMap fun k => k.expr.shown
  | setOperation .. => []
  | write target (.createTableAs _) => target.shown
  | write target (.insert _) => target.shown
  | write target (.delete condition) => target.shown ++ condition.shown

lemma newline_not_mem_projectedText_iff (e : Expr) (name : String) :
    '\n' ∉ (projectedText e name).toList ↔ NoBreaks (e.shown ++ [name]) := by
  unfold projectedText
  split_ifs with h
  · simp [e.newline_not_mem_text_iff, String.isEmpty_iff.mp h]
  · simp [e.newline_not_mem_text_iff]

/-- A headline has line breaks only from the names and texts of its own relation. -/
lemma newline_not_mem_headline_iff (r : Relation) :
    '\n' ∉ r.headline.toList ↔ NoBreaks r.ownShown := by
  -- Each case spells out the headline and the texts that it is made of.
  cases r with
  | table info lock =>
    show '\n' ∉ ("Table " ++ info.text).toList ↔ NoBreaks info.shown
    simp [info.newline_not_mem_text_iff]
  | view info lock =>
    show '\n' ∉ ("View " ++ info.text).toList ↔ NoBreaks info.shown
    simp [info.newline_not_mem_text_iff]
  | tableFunction name parameters namedParameters lock =>
    have hheadline : (tableFunction name parameters namedParameters lock).headline =
        "TableFunction " ++ name ++ "(" ++ ", ".intercalate (Value.texts parameters ++
          namedParameters.map fun (key, v) => key ++ "=" ++ v.text) ++ ")" := rfl
    rw [hheadline]
    simp [ownShown, Value.forall_mem_texts_iff, Value.newline_not_mem_text_iff, or_imp,
      forall_and, -Prod.forall, -Prod.exists]
  | inline rows lock =>
    show '\n' ∉ ("Values [" ++ toString rows.length ++ " rows]").toList ↔ NoBreaks []
    simp [toString]
  | aliased name input =>
    show '\n' ∉ ("Alias " ++ name).toList ↔ NoBreaks [name]
    simp
  | filter input condition =>
    show '\n' ∉ ("Filter " ++ condition.text).toList ↔ NoBreaks condition.shown
    simp [condition.newline_not_mem_text_iff]
  | project input expressions names =>
    show '\n' ∉ ("Project [" ++
      ", ".intercalate (expressions.zipWith projectedText names) ++ "]").toList ↔
        NoBreaks ((expressions.zip names).flatMap fun (e, name) => e.shown ++ [name])
    have hzip : expressions.zipWith projectedText names =
        (expressions.zip names).map fun column => projectedText column.1 column.2 :=
      List.map_uncurry_zip_eq_zipWith.symm
    simp [hzip, newline_not_mem_projectedText_iff, -Prod.forall, -Prod.exists]
  | aggregate input expressions groups =>
    show '\n' ∉ ("Aggregate [" ++ ", ".intercalate (Expr.texts expressions) ++ "] GROUP BY [" ++
      ", ".intercalate (Expr.texts groups) ++ "]").toList ↔
        NoBreaks (Expr.shownAll expressions ++ Expr.shownAll groups)
    simp [Expr.forall_mem_texts_iff]
  | join left right condition kind =>
    show '\n' ∉ ("Join " ++ kind.name ++ " ON " ++ condition.text).toList ↔
      NoBreaks condition.shown
    cases kind <;> simp [JoinKind.name, condition.newline_not_mem_text_iff]
  | product left right =>
    show '\n' ∉ "CrossProduct".toList ↔ NoBreaks []
    simp
  | limit input limit offset =>
    cases limit with
    | none =>
      show '\n' ∉ s!"Limit ALL OFFSET {offset.toNat}".toList ↔ NoBreaks []
      simp [toString]
    | some n =>
      show '\n' ∉ s!"Limit {n.toNat} OFFSET {offset.toNat}".toList ↔ NoBreaks []
      simp [toString]
  | sort input keys =>
    show '\n' ∉ ("Order [" ++ ", ".intercalate (keys.map SortKey.text) ++ "]").toList ↔
      NoBreaks (keys.flatMap fun k => k.expr.shown)
    simp [SortKey.newline_not_mem_text_iff]
  | setOperation left right op =>
    show '\n' ∉ ("SetOp " ++ op.name).toList ↔ NoBreaks []
    cases op <;> simp [SetOperator.name]
  | write target effect =>
    cases effect with
    | createTableAs input =>
      show '\n' ∉ ("CreateTableAs " ++ target.text).toList ↔ NoBreaks target.shown
      simp [target.newline_not_mem_text_iff]
    | insert input =>
      show '\n' ∉ ("Insert " ++ target.text).toList ↔ NoBreaks target.shown
      simp [target.newline_not_mem_text_iff]
    | delete condition =>
      show '\n' ∉ ("Delete " ++ target.text ++ " WHERE " ++ condition.text).toList ↔
        NoBreaks (target.shown ++ condition.shown)
      simp [target.newline_not_mem_text_iff, condition.newline_not_mem_text_iff]

end Relation

end Engine

end PlanImport
