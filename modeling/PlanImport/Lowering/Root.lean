import PlanImport.Lowering.Rel

/-!
# The lowering of roots and plans

A root gets a projection on top that gives each column its name out of the flat list of names. If
the columns come from a projection, the names inside the type of each column are left out;
otherwise the list is taken as it is.
-/

namespace PlanImport

open Engine Plan

/-! ### Names of columns -/

/-- The projection that the columns of a relation come from, by way of limits, sorts and the
right inputs of set operations. -/
def Engine.Relation.projection? : Relation → Option Relation
  | r@(.project ..) => some r
  | .limit input _ _ => input.projection?
  | .sort input _ => input.projection?
  | .setOperation _ right _ => right.projection?
  | _ => none

/-- A name for each column out of a flat list, from the types of the columns. -/
def pickNames : List SqlType → List String → Except Refusal (List String)
  | [], _ => .ok []
  | _ :: _, [] => .error .namesExhausted
  | type :: types, name :: names =>
    (pickNames types (names.drop type.innerNames)).map (name :: ·)

/-- The names of the output columns of a relation out of a flat list. -/
def Engine.Relation.columnNames (r : Relation) (names : List String) :
    Except Refusal (List String) :=
  match r.projection? with
  | some (.project input expressions _) =>
    pickNames (Expr.typesOver (input.columnTypes.getD []) expressions) names
  | _ => .ok names

/-- The projection that renames the first columns. -/
def Engine.Relation.renamed (r : Relation) (names : List String) : Relation :=
  .project r ((List.range names.length).map fun i => .column (i + 1)) names

/-- Put the names of the output columns on a relation. A table that is created gets them beneath
the write; other writes have no columns. -/
def Engine.Relation.withNames (r : Relation) (names : List String) : Relation :=
  match r with
  | .write target (.createTableAs input) => .write target (.createTableAs (input.renamed names))
  | .write target effect => .write target effect
  | r => r.renamed names

/-! ### Roots and plans -/

namespace LoweringContext

def lowerRoot (c : LoweringContext) (root : Root) : Lowering Relation := do
  let r ← c.lowerInput "root.input" root.input (some root.names)
  let names ← Lowering.lift (r.columnNames root.names)
  return r.withNames names

def lowerPlanRel (c : LoweringContext) : PlanRel → Lowering Relation
  | .root root => c.lowerRoot root
  | .rel rel => c.lowerRel rel none
  | .unset => throw (.absent "plan_rel.rel_type")

/-- The engine's relation for the first relation of a plan. -/
def lowerPlan (c : LoweringContext) (p : Plan) : Lowering Relation :=
  match p.relations with
  | [] => throw .noRelation
  | first :: _ => c.lowerPlanRel first

end LoweringContext

end PlanImport
