import PlanImport.Engine.Relation

/-!
# Explained relations

A relation as lines of text: one line for each operator, before those of its inputs, which are
indented by two blanks more.
-/

namespace PlanImport.Engine

/-- A sort key with its direction. -/
def SortKey.text (k : SortKey) : String :=
  let direction := match k.direction with
    | .ascending => "ASC"
    | .descending => "DESC"
  let nulls := match k.nulls with
    | .first => "NULLS FIRST"
    | .last => "NULLS LAST"
  k.expr.text ++ " " ++ direction ++ " " ++ nulls

namespace Relation

/-- A projected expression with its name. -/
def projectedText (e : Expr) (name : String) : String :=
  if name.isEmpty then e.text else e.text ++ " AS " ++ name

/-- The line of an operator without its inputs. -/
def headline : Relation → String
  | table info _ => "Table " ++ info.text
  | view info _ => "View " ++ info.text
  | tableFunction name parameters namedParameters _ =>
    let args := Value.texts parameters ++ namedParameters.map fun (k, v) => k ++ "=" ++ v.text
    "TableFunction " ++ name ++ "(" ++ ", ".intercalate args ++ ")"
  | inline rows _ => "Values [" ++ toString rows.length ++ " rows]"
  | aliased name _ => "Alias " ++ name
  | filter _ condition => "Filter " ++ condition.text
  | project _ expressions names =>
    "Project [" ++ ", ".intercalate (expressions.zipWith projectedText names) ++ "]"
  | aggregate _ expressions groups =>
    "Aggregate [" ++ ", ".intercalate (Expr.texts expressions) ++ "] GROUP BY [" ++
      ", ".intercalate (Expr.texts groups) ++ "]"
  | join _ _ condition kind => "Join " ++ kind.name ++ " ON " ++ condition.text
  | product .. => "CrossProduct"
  | limit _ (some n) offset => s!"Limit {n.toNat} OFFSET {offset.toNat}"
  | limit _ none offset => s!"Limit ALL OFFSET {offset.toNat}"
  | sort _ keys => "Order [" ++ ", ".intercalate (keys.map SortKey.text) ++ "]"
  | setOperation _ _ op => "SetOp " ++ op.name
  | write target (.createTableAs _) => "CreateTableAs " ++ target.text
  | write target (.insert _) => "Insert " ++ target.text
  | write target (.delete condition) =>
    "Delete " ++ target.text ++ " WHERE " ++ condition.text

def line (depth : Nat) (text : String) : String :=
  .ofList (List.replicate (2 * depth) ' ') ++ text ++ "\n"

mutual

/-- The lines of a relation at the given depth, each with its end. -/
def explainAt (depth : Nat) : Relation → List String
  | r@(table ..) => [line depth r.headline]
  | r@(view ..) => [line depth r.headline]
  | r@(tableFunction ..) => [line depth r.headline]
  | r@(inline ..) => [line depth r.headline]
  | r@(aliased _ input) => line depth r.headline :: input.explainAt (depth + 1)
  | r@(filter input _) => line depth r.headline :: input.explainAt (depth + 1)
  | r@(project input _ _) => line depth r.headline :: input.explainAt (depth + 1)
  | r@(aggregate input _ _) => line depth r.headline :: input.explainAt (depth + 1)
  | r@(limit input _ _) => line depth r.headline :: input.explainAt (depth + 1)
  | r@(sort input _) => line depth r.headline :: input.explainAt (depth + 1)
  | r@(join left right _ _) =>
    line depth r.headline :: (left.explainAt (depth + 1) ++ right.explainAt (depth + 1))
  | r@(product left right) =>
    line depth r.headline :: (left.explainAt (depth + 1) ++ right.explainAt (depth + 1))
  | r@(setOperation left right _) =>
    line depth r.headline :: (left.explainAt (depth + 1) ++ right.explainAt (depth + 1))
  | r@(write _ effect) => line depth r.headline :: explainEffect (depth + 1) effect

/-- The lines of the input of a write. -/
def explainEffect (depth : Nat) : WriteEffect → List String
  | .createTableAs input => input.explainAt depth
  | .insert input => input.explainAt depth
  | .delete _ => []

end

/-- A relation as lines of text. -/
def explain (r : Relation) : String := String.join (r.explainAt 0)

end Relation

end PlanImport.Engine
