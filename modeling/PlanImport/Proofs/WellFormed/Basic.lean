import Mathlib.Tactic.Common
import PlanImport.Engine.Relation
import PlanImport.Lowering.Context

/-!
# Well-formed relations

What the engine may rely on in a relation, at every node of it: how columns are counted, how
decimals are stored, where structs with named fields and distinct calls stand, what the inputs of
joins are called and how the columns of projections are named.
-/

namespace PlanImport.Engine

/-! ### Constants -/

/-- The integer type is the one in which decimals of the given width are stored. -/
def SizedInt.IsOfWidth : SizedInt → Nat → Prop
  | int8 _, width => 1 ≤ width ∧ width ≤ 2
  | int16 _, width => 3 ≤ width ∧ width ≤ 4
  | int32 _, width => 5 ≤ width ∧ width ≤ 9
  | int64 _, width => 10 ≤ width ∧ width ≤ 18
  | int128 _, width => 19 ≤ width ∧ width ≤ 38

namespace Value

mutual

/-- Decimals have a width from 1 to 38 and no greater scale, and are stored in the integer type that
the width selects. -/
def WellFormed : Value → Prop
  | decimal storage width scale =>
    1 ≤ width.toNat ∧ width.toNat ≤ 38 ∧ scale.toNat ≤ width.toNat ∧
      storage.IsOfWidth width.toNat
  | list items => AllWellFormed items
  | _ => True

def AllWellFormed : List Value → Prop
  | [] => True
  | v :: rest => v.WellFormed ∧ AllWellFormed rest

end

@[simp] lemma allWellFormed_iff {vs : List Value} :
    AllWellFormed vs ↔ ∀ v ∈ vs, v.WellFormed := by
  induction vs with
  | nil => simp [AllWellFormed]
  | cons v vs ih => simp [AllWellFormed, ih]

end Value

/-! ### Expressions -/

namespace Expr

mutual

/-- Columns are counted from one, no call is distinct and no struct has named fields. -/
def WellFormed : Expr → Prop
  | constant v => v.WellFormed
  | column position => 1 ≤ position
  | call _ args distinct => distinct = false ∧ AllWellFormed args
  | conjunction _ children => AllWellFormed children
  | comparison _ left right => left.WellFormed ∧ right.WellFormed
  | unary _ operand => operand.WellFormed
  | case arms otherwise => ArmsWellFormed arms ∧ otherwise.WellFormed
  | cast _ operand => operand.WellFormed
  | between input lower upper => input.WellFormed ∧ lower.WellFormed ∧ upper.WellFormed
  | inList value options => value.WellFormed ∧ AllWellFormed options
  | struct _ => False
  | row fields => AllWellFormed fields
  | list items => AllWellFormed items
  | map key value => key.WellFormed ∧ value.WellFormed

def AllWellFormed : List Expr → Prop
  | [] => True
  | e :: rest => e.WellFormed ∧ AllWellFormed rest

def ArmsWellFormed : List (Expr × Expr) → Prop
  | [] => True
  | (condition, result) :: rest =>
    condition.WellFormed ∧ result.WellFormed ∧ ArmsWellFormed rest

end

@[simp] lemma allWellFormed_iff {es : List Expr} :
    AllWellFormed es ↔ ∀ e ∈ es, e.WellFormed := by
  induction es with
  | nil => simp [AllWellFormed]
  | cons e es ih => simp [AllWellFormed, ih]

/-- A column of a projection may also be a struct with named fields, whose names differ. -/
def WellFormedColumn : Expr → Prop
  | struct fields => (fields.map Prod.fst).Nodup ∧ ∀ field ∈ fields, field.2.WellFormed
  | e => e.WellFormed

/-- An aggregate is a call, which may be distinct. -/
def WellFormedAggregate : Expr → Prop
  | call _ args _ => ∀ arg ∈ args, arg.WellFormed
  | _ => False

lemma WellFormed.column {e : Expr} (h : e.WellFormed) : e.WellFormedColumn := by
  cases e with
  | struct fields => simp [WellFormed] at h
  | _ => exact h

end Expr

/-! ### Relations -/

def InlineRows.WellFormed : InlineRows → Prop
  | constants rows => ∀ row ∈ rows, ∀ v ∈ row, v.WellFormed
  | expressions rows => ∀ row ∈ rows, ∀ e ∈ row, e.WellFormed

/-- The relation is an input of the given name. -/
def Relation.IsAliased (name : String) (r : Relation) : Prop := ∃ input, r = .aliased name input

/-- The greatest number of rows that a limit speaks of. -/
def maxRows : Nat := 0x7fffffffffffffff

mutual

/-- Every node is as the engine may rely on. -/
def Relation.WellFormed : Relation → Prop
  | .table .. => True
  | .view .. => True
  | .tableFunction _ parameters namedParameters _ =>
    (∀ v ∈ parameters, v.WellFormed) ∧ ∀ p ∈ namedParameters, p.2.WellFormed
  | .inline rows _ => rows.WellFormed
  | .aliased _ input => input.WellFormed
  | .filter input condition => input.WellFormed ∧ condition.WellFormed
  -- The columns are named `col_0`, `col_1` and so on.
  | .project input expressions names =>
    input.WellFormed ∧ (∀ e ∈ expressions, e.WellFormedColumn) ∧
      names = placeholderNames expressions.length
  -- The group keys come first and then the aggregates.
  | .aggregate input expressions groups =>
    input.WellFormed ∧ (∀ e ∈ groups, e.WellFormed) ∧
      ∃ aggregates, expressions = groups ++ aggregates ∧ ∀ e ∈ aggregates, e.WellFormedAggregate
  | .join left right condition _ =>
    left.IsAliased "left" ∧ right.IsAliased "right" ∧ left.WellFormed ∧ right.WellFormed ∧
      condition.WellFormed
  | .product left right =>
    left.IsAliased "left" ∧ right.IsAliased "right" ∧ left.WellFormed ∧ right.WellFormed
  | .limit input limit offset =>
    input.WellFormed ∧ (∀ count, limit = some count → count.toNat ≤ maxRows) ∧
      offset.toNat ≤ maxRows
  | .sort input keys => input.WellFormed ∧ ∀ key ∈ keys, key.expr.WellFormed
  | .setOperation left right _ => left.WellFormed ∧ right.WellFormed
  | .write _ effect => effect.WellFormed

def WriteEffect.WellFormed : WriteEffect → Prop
  | .createTableAs input => input.WellFormed
  | .insert input => input.WellFormed
  | .delete condition => condition.WellFormed

end

/-- A name for a relation changes nothing beneath it. -/
lemma Relation.WellFormed.aliased {r : Relation} (h : r.WellFormed) (name : String) :
    (Relation.aliased name r).WellFormed := h

/-- The projection that names the output columns of a root: it has a name for each expression, and
beneath it everything is well formed. -/
def Relation.WellFormedRenaming : Relation → Prop
  | .project input expressions names =>
    input.WellFormed ∧ (∀ e ∈ expressions, e.WellFormedColumn) ∧
      names.length = expressions.length
  | _ => False

/-- What a root is lowered to is a renaming projection, or a write. A write that creates a table has
the renaming projection beneath it, and other writes have none. -/
def Relation.WellFormedRoot : Relation → Prop
  | .write _ (.createTableAs input) => input.WellFormedRenaming
  | .write _ effect => effect.WellFormed
  | r => r.WellFormedRenaming

end PlanImport.Engine
