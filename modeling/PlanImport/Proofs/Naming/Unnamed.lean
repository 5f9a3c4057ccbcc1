import PlanImport.Proofs.Naming.Relation
import PlanImport.Proofs.Naming.Taken

/-!
# Relations without names of fields

What the names of output columns leave alone: everything but the names of fields. Structs with named
fields become structs with fields in order, wherever they are; lowerings with different names end
with the same relation after that, or with the same refusal, and with the same number for the next
scan.
-/

namespace PlanImport

open Engine Plan

/-! ### Structs with fields in order -/

namespace Engine

mutual

/-- An expression with structs with fields in order in place of those with named fields. -/
def Expr.unnamed : Expr → Expr
  | .constant v => .constant v
  | .column position => .column position
  | .call name args distinct => .call name (Expr.unnamedAll args) distinct
  | .conjunction op children => .conjunction op (Expr.unnamedAll children)
  | .comparison op left right => .comparison op left.unnamed right.unnamed
  | .unary op operand => .unary op operand.unnamed
  | .case arms otherwise => .case (Expr.unnamedArms arms) otherwise.unnamed
  | .cast target operand => .cast target operand.unnamed
  | .between input lower upper => .between input.unnamed lower.unnamed upper.unnamed
  | .inList value options => .inList value.unnamed (Expr.unnamedAll options)
  | .struct fields => .row (Expr.unnamedFields fields)
  | .row fields => .row (Expr.unnamedAll fields)
  | .list items => .list (Expr.unnamedAll items)
  | .map key value => .map key.unnamed value.unnamed

def Expr.unnamedAll : List Expr → List Expr
  | [] => []
  | e :: rest => e.unnamed :: Expr.unnamedAll rest

def Expr.unnamedArms : List (Expr × Expr) → List (Expr × Expr)
  | [] => []
  | (condition, result) :: rest =>
    (condition.unnamed, result.unnamed) :: Expr.unnamedArms rest

/-- The same for named fields, of which the names are dropped. -/
def Expr.unnamedFields : List (String × Expr) → List Expr
  | [] => []
  | (_, e) :: rest => e.unnamed :: Expr.unnamedFields rest

end

/-- Naming the fields of a struct and dropping the names gives the fields. -/
lemma Expr.unnamedFields_zip {names : List String} {fields : List Expr}
    (h : names.length = fields.length) :
    Expr.unnamedFields (names.zip fields) = Expr.unnamedAll fields := by
  induction names generalizing fields with
  | nil =>
    cases fields with
    | nil => rfl
    | cons e fields => simp at h
  | cons name names ih =>
    cases fields with
    | nil => simp at h
    | cons e fields =>
      rw [List.zip_cons_cons, Expr.unnamedFields, Expr.unnamedAll, ih (by simpa using h)]

def SortKey.unnamed (key : SortKey) : SortKey := { key with expr := key.expr.unnamed }

def InlineRows.unnamed : InlineRows → InlineRows
  | constants rows => constants rows
  | expressions rows => expressions (rows.map Expr.unnamedAll)

mutual

/-- A relation with structs with fields in order in place of those with named fields. -/
def Relation.unnamed : Relation → Relation
  | .table info lock => .table info lock
  | .view info lock => .view info lock
  | .tableFunction name parameters namedParameters lock =>
    .tableFunction name parameters namedParameters lock
  | .inline rows lock => .inline rows.unnamed lock
  | .aliased name input => .aliased name input.unnamed
  | .filter input condition => .filter input.unnamed condition.unnamed
  | .project input expressions names =>
    .project input.unnamed (Expr.unnamedAll expressions) names
  | .aggregate input expressions groups =>
    .aggregate input.unnamed (Expr.unnamedAll expressions) (Expr.unnamedAll groups)
  | .join left right condition kind =>
    .join left.unnamed right.unnamed condition.unnamed kind
  | .product left right => .product left.unnamed right.unnamed
  | .limit input limit offset => .limit input.unnamed limit offset
  | .sort input keys => .sort input.unnamed (keys.map SortKey.unnamed)
  | .setOperation left right op => .setOperation left.unnamed right.unnamed op
  | .write target effect => .write target effect.unnamed

def WriteEffect.unnamed : WriteEffect → WriteEffect
  | .createTableAs input => .createTableAs input.unnamed
  | .insert input => .insert input.unnamed
  | .delete condition => .delete condition.unnamed

end

end Engine

/-! ### Names that are given to fields -/

namespace NameStream

lemma unnamed_nameColumn (s : NameStream) (e : Expr) :
    (s.nameColumn e).1.unnamed = e.unnamed := by
  obtain h | ⟨fields, names, rest, rfl, hnames, h⟩ := s.fst_nameColumn e
  · rw [h]
  · rw [h, Expr.unnamed, Expr.unnamedFields_zip (length_fieldNames? hnames), Expr.unnamed]

lemma unnamedAll_nameColumns (s : NameStream) (es : List Expr) :
    Expr.unnamedAll (s.nameColumns es) = Expr.unnamedAll es := by
  induction es generalizing s with
  | nil => rfl
  | cons e es ih =>
    rw [nameColumns_cons, Expr.unnamedAll, Expr.unnamedAll, unnamed_nameColumn, ih]

end NameStream

namespace Engine.Relation

/-- The names that a relation takes are gone when its fields are in order again. -/
lemma unnamed_nameFields (names : List String) (r : Relation) :
    (r.nameFields names).unnamed = r.unnamed := by
  match r with
  | project input es labels =>
    rw [nameFields, unnamed, NameStream.unnamedAll_nameColumns, unnamed]
  | limit input count offset => rw [nameFields, unnamed, unnamed_nameFields names input, unnamed]
  | sort input keys => rw [nameFields, unnamed, unnamed_nameFields names input, unnamed]
  | setOperation left right op =>
    rw [nameFields, unnamed, unnamed_nameFields names right, unnamed]
  | table .. | view .. | tableFunction .. | inline .. | aliased .. | filter .. | aggregate ..
  | join .. | product .. | write .. => rfl

end Engine.Relation

/-! ### Lowerings with different names -/

/-- Two lowerings end alike but for names of fields: with the same refusal, or with relations that
are the same without these names. -/
def SameUnnamed : Except Refusal Relation → Except Refusal Relation → Prop
  | .ok r, .ok r' => r.unnamed = r'.unnamed
  | .error e, .error e' => e = e'
  | _, _ => False

lemma sameUnnamed_iff {x x' : Except Refusal Relation} :
    SameUnnamed x x' ↔ x.map Relation.unnamed = x'.map Relation.unnamed := by
  cases x <;> cases x' <;> simp [SameUnnamed, Except.map]

namespace LoweringContext

variable (c : LoweringContext) (rel : Rel)

/-- Names are given to the relation that is lowered without them, so dropping them gives it back. -/
lemma runFrom_lowerRel_unnamed (names : Option (List String)) (n : Nat) :
    ((c.lowerRel rel names).runFrom n).1.map Relation.unnamed =
        ((c.lowerRel rel none).runFrom n).1.map Relation.unnamed ∧
      ((c.lowerRel rel names).runFrom n).2 = ((c.lowerRel rel none).runFrom n).2 := by
  cases names with
  | none => exact ⟨rfl, rfl⟩
  | some names =>
    rw [lowerRel_some, Lowering.runFrom_map]
    refine ⟨?_, rfl⟩
    cases ((c.lowerRel rel none).runFrom n).1 with
    | error e => rfl
    | ok r => simp only [Except.map, Relation.unnamed_nameFields]

/-- The names of output columns influence nothing but the names of fields. -/
theorem lowerRel_sameUnnamed (names names' : Option (List String)) (n : Nat) :
    SameUnnamed ((c.lowerRel rel names).runFrom n).1 ((c.lowerRel rel names').runFrom n).1 ∧
      ((c.lowerRel rel names).runFrom n).2 = ((c.lowerRel rel names').runFrom n).2 := by
  obtain ⟨hr, hk⟩ := c.runFrom_lowerRel_unnamed rel names n
  obtain ⟨hr', hk'⟩ := c.runFrom_lowerRel_unnamed rel names' n
  exact ⟨sameUnnamed_iff.mpr (hr.trans hr'.symm), hk.trans hk'.symm⟩

end LoweringContext

end PlanImport
