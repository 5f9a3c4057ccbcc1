import PlanImport.Proofs.Explain.Outline
import PlanImport.Proofs.Explain.Shown
import PlanImport.Proofs.Kept.Relation

/-!
# Explained relations that can be read

The text of a relation has a line for each relation in it, and the inputs of a relation are those
lines below it that are indented by one step more. This can be read off the text exactly if none of
the names and constant texts that are shown has a line break, for these are written as they are.
-/

namespace PlanImport.Engine

/-! ### The outline of a relation -/

mutual

/-- The headline of a relation with the outlines of its inputs below it. -/
def Relation.outline : Relation → Outline
  | r@(.table ..) => .node r.headline []
  | r@(.view ..) => .node r.headline []
  | r@(.tableFunction ..) => .node r.headline []
  | r@(.inline ..) => .node r.headline []
  | r@(.aliased _ input) => .node r.headline [input.outline]
  | r@(.filter input _) => .node r.headline [input.outline]
  | r@(.project input _ _) => .node r.headline [input.outline]
  | r@(.aggregate input _ _) => .node r.headline [input.outline]
  | r@(.limit input _ _) => .node r.headline [input.outline]
  | r@(.sort input _) => .node r.headline [input.outline]
  | r@(.join left right _ _) => .node r.headline [left.outline, right.outline]
  | r@(.product left right) => .node r.headline [left.outline, right.outline]
  | r@(.setOperation left right _) => .node r.headline [left.outline, right.outline]
  | r@(.write _ effect) => .node r.headline effect.outlines

/-- The outline of the input of a write, if there is one. -/
def WriteEffect.outlines : WriteEffect → List Outline
  | .createTableAs input => [input.outline]
  | .insert input => [input.outline]
  | .delete _ => []

end

namespace Relation

open Outline

/-- The relations that a relation is computed from, the left one first. -/
def inputs : Relation → List Relation
  | table .. | view .. | tableFunction .. | inline .. => []
  | aliased _ input => [input]
  | filter input _ => [input]
  | project input _ _ => [input]
  | aggregate input _ _ => [input]
  | limit input _ _ => [input]
  | sort input _ => [input]
  | join left right _ _ => [left, right]
  | product left right => [left, right]
  | setOperation left right _ => [left, right]
  | write _ (.createTableAs input) => [input]
  | write _ (.insert input) => [input]
  | write _ (.delete _) => []

/-- What holds of a relation if it holds of its inputs holds of all. -/
lemma induction {P : Relation → Prop} (step : ∀ r, (∀ input ∈ r.inputs, P input) → P r)
    (r : Relation) : P r := by
  apply step
  match r with
  | table .. | view .. | tableFunction .. | inline .. | write _ (.delete _) => simp [inputs]
  | aliased _ input | filter input _ | project input _ _ | aggregate input _ _
  | limit input _ _ | sort input _ | write _ (.createTableAs input) | write _ (.insert input) =>
    simpa [inputs] using induction step input
  | join left right _ _ | product left right | setOperation left right _ =>
    simpa [inputs] using ⟨induction step left, induction step right⟩

lemma outline_eq (r : Relation) : r.outline = .node r.headline (r.inputs.map outline) := by
  match r with
  | write _ (.createTableAs _) | write _ (.insert _) | write _ (.delete _) => rfl
  | table .. | view .. | tableFunction .. | inline .. | aliased .. | filter .. | project ..
  | aggregate .. | limit .. | sort .. | join .. | product .. | setOperation .. => rfl

/-- The kinds of relations differ in their headlines and inputs only. -/
lemma explainAt_eq (depth : Nat) (r : Relation) :
    r.explainAt depth = line depth r.headline :: r.inputs.flatMap (explainAt (depth + 1)) := by
  match r with
  | write _ (.createTableAs _) | write _ (.insert _) | write _ (.delete _) =>
    simp [explainAt, explainEffect, inputs]
  | table .. | view .. | tableFunction .. | inline .. | aliased .. | filter .. | project ..
  | aggregate .. | limit .. | sort .. | join .. | product .. | setOperation .. =>
    simp [explainAt, inputs]

lemma parts_eq (r : Relation) : r.parts = r :: r.inputs.flatMap parts := by
  match r with
  | write _ (.createTableAs _) | write _ (.insert _) | write _ (.delete _) =>
    simp [parts, WriteEffect.parts, inputs]
  | table .. | view .. | tableFunction .. | inline .. | aliased .. | filter .. | project ..
  | aggregate .. | limit .. | sort .. | join .. | product .. | setOperation .. =>
    simp [parts, inputs]

/-- The lines of a relation are those of its outline. -/
lemma explainAt_eq_map (depth : Nat) (r : Relation) :
    r.explainAt depth = (r.outline.entries depth).map fun entry => line entry.1 entry.2 := by
  induction r using Relation.induction generalizing depth with
  | step r ih =>
    rw [explainAt_eq, outline_eq, entries, allEntries_eq, List.map_cons, List.map_flatMap,
      List.flatMap_map]
    exact congrArg _ (List.flatMap_congr fun input hinput => ih input hinput (depth + 1))

/-- The headlines are those of the relations in a relation. -/
lemma map_snd_entries_outline (depth : Nat) (r : Relation) :
    (r.outline.entries depth).map Prod.snd = r.parts.map headline := by
  induction r using Relation.induction generalizing depth with
  | step r ih =>
    rw [outline_eq, entries, allEntries_eq, parts_eq, List.map_cons, List.map_cons,
      List.map_flatMap, List.map_flatMap, List.flatMap_map]
    exact congrArg _ (List.flatMap_congr fun input hinput => ih input hinput (depth + 1))

/-- What the headline of a relation begins with. -/
def lead : Relation → String
  | table .. => "Table "
  | view .. => "View "
  | tableFunction .. => "TableFunction "
  | inline .. => "Values ["
  | aliased .. => "Alias "
  | filter .. => "Filter "
  | project .. => "Project ["
  | aggregate .. => "Aggregate ["
  | join .. => "Join "
  | product .. => "CrossProduct"
  | limit .. => "Limit "
  | sort .. => "Order ["
  | setOperation .. => "SetOp "
  | write _ (.createTableAs _) => "CreateTableAs "
  | write _ (.insert _) => "Insert "
  | write _ (.delete _) => "Delete "

/-- Each kind of headline begins with its own words. -/
lemma lead_prefix_headline (r : Relation) : r.lead.toList <+: r.headline.toList := by
  have happend (s t : String) : s.toList <+: (s ++ t).toList := by simp
  match r with
  | table info _ => exact happend "Table " info.text
  | view info _ => exact happend "View " info.text
  | tableFunction .. =>
    exact (((happend "TableFunction " _).trans (happend _ _)).trans (happend _ _)).trans
      (happend _ _)
  | inline .. => exact (happend "Values [" _).trans (happend _ _)
  | aliased name _ => exact happend "Alias " name
  | filter _ condition => exact happend "Filter " condition.text
  | project .. => exact (happend "Project [" _).trans (happend _ _)
  | aggregate .. =>
    exact (((happend "Aggregate [" _).trans (happend _ _)).trans (happend _ _)).trans
      (happend _ _)
  | join .. => exact ((happend "Join " _).trans (happend _ _)).trans (happend _ _)
  | product .. => exact List.prefix_rfl
  | limit input none offset =>
    have hheadline :
        (limit input none offset).headline = s!"Limit ALL OFFSET {offset.toNat}" := rfl
    simp [hheadline, lead, toString]
  | limit input (some n) offset =>
    have hheadline : (limit input (some n) offset).headline =
        s!"Limit {n.toNat} OFFSET {offset.toNat}" := rfl
    simp [hheadline, lead, toString]
  | sort .. => exact (happend "Order [" _).trans (happend _ _)
  | setOperation _ _ op => exact happend "SetOp " op.name
  | write target (.createTableAs _) => exact happend "CreateTableAs " target.text
  | write target (.insert _) => exact happend "Insert " target.text
  | write target (.delete _) =>
    exact ((happend "Delete " target.text).trans (happend _ " WHERE ")).trans (happend _ _)

/-- The beginning of a headline says how many inputs there are. -/
lemma lead_mem_leads (r : Relation) : (r.lead, r.inputs.length) ∈ leads := by
  match r with
  | write _ (.createTableAs _) | write _ (.insert _) | write _ (.delete _) =>
    simp [lead, leads, inputs]
  | table .. | view .. | tableFunction .. | inline .. | aliased .. | filter .. | project ..
  | aggregate .. | limit .. | sort .. | join .. | product .. | setOperation .. =>
    simp [lead, leads, inputs]

lemma led_outline (r : Relation) : r.outline.Led := by
  induction r using Relation.induction with
  | step r ih =>
    have hlead := r.lead_mem_leads
    rw [← List.length_map (f := outline)] at hlead
    rw [outline_eq]
    exact .node hlead r.lead_prefix_headline (List.forall_mem_map.mpr ih)

lemma splitOn_explain (r : Relation) :
    r.explain.toList.splitOn '\n' = r.outline.lines 0 ++ [[]] := by
  have hline (entry : Nat × String) :
      (line entry.1 entry.2).toList = indented entry ++ ['\n'] := by simp [line, indented]
  rw [explain, String.toList_join, explainAt_eq_map, List.flatMap_map]
  simp only [hline]
  rw [Text.splitOn_flatMap, lines]

example : (project (table ⟨"main", "t", [⟨"x", .integer⟩]⟩ .acquire) [.column 1] ["a"]).explain =
    "Project [#1 AS a]\n  Table main.t (x INTEGER)\n" := by decide

/-! ### What can be read -/

/-- The names and constant texts in the headlines of a relation and of those in it. -/
def shown (r : Relation) : List String := r.parts.flatMap ownShown

lemma unbroken_outline_iff (r : Relation) :
    r.outline.Unbroken ↔ ∀ text ∈ r.shown, '\n' ∉ text.toList := by
  have hparts : r.outline.Unbroken ↔ ∀ part ∈ r.parts, '\n' ∉ part.headline.toList := by
    rw [← List.forall_mem_map (P := fun text : String => '\n' ∉ text.toList),
      ← map_snd_entries_outline 0, List.forall_mem_map, unbroken_iff 0]
  rw [hparts, shown, List.forall_mem_flatMap]
  exact forall₂_congr fun part _ => part.newline_not_mem_headline_iff

/-- The text of a relation shows the relations in it. -/
structure Legible (r : Relation) : Prop where
  /-- There is one line for each headline, with two blanks for each step of depth before it. -/
  lines : r.explain.toList.splitOn '\n' = (r.outline.entries 0).map indented ++ [[]]
  /-- The headlines are those of all relations in the relation, each in front of its inputs. -/
  headlines : (r.outline.entries 0).map Prod.snd = r.parts.map headline
  /-- No headline begins with a blank. -/
  start : ∀ entry ∈ r.outline.entries 0, ∃ c cs, entry.2.toList = c :: cs ∧ c ≠ ' '
  /-- Relations with the same text have the same headlines at the same places. -/
  determined : ∀ r' : Relation, r'.explain = r.explain → r'.outline = r.outline

lemma lines_outline_eq {r r' : Relation} (h : r.explain = r'.explain) :
    r.outline.lines 0 = r'.outline.lines 0 := by
  have hlines := congrArg (fun text => text.toList.splitOn '\n') h
  simp only [splitOn_explain] at hlines
  exact List.append_cancel_right hlines

lemma legible_of_unbroken {r : Relation} (h : r.outline.Unbroken) : r.Legible where
  lines := by rw [splitOn_explain, (lines_eq_iff 0 _).mpr h]
  headlines := r.map_snd_entries_outline 0
  start := r.led_outline.start 0
  determined r' hr' :=
    (r.led_outline.eq_of_lines_eq h r'.led_outline (lines_outline_eq hr'.symm)).symm

lemma Legible.unbroken {r : Relation} (h : r.Legible) : r.outline.Unbroken := by
  have hlines := r.splitOn_explain.symm.trans h.lines
  exact (lines_eq_iff 0 _).mp (List.append_cancel_right hlines)

/-- The relations in a relation can be read off its text exactly if no name and no constant text
that is shown has a line break. -/
theorem legible_iff (r : Relation) : r.Legible ↔ ∀ text ∈ r.shown, '\n' ∉ text.toList := by
  rw [← unbroken_outline_iff]
  exact ⟨Legible.unbroken, legible_of_unbroken⟩

/-- A name with a line break takes two lines. What follows the break may look like the lines of
other relations, so that relations of different shapes have the same text. -/
theorem not_legible_newline :
    ¬ (project (table ⟨"main", "t", [⟨"x", .integer⟩]⟩ .acquire) [.column 1] ["a\nb"]).Legible ∧
    let scan (name : String) := table ⟨"s", name, []⟩ .acquire
    let r := product (aliased "x" (scan "a ()\n  Alias y\n    Table s.b")) (scan "c")
    let r' := product (aliased "x" (scan "a")) (aliased "y" (scan "b ()\n  Table s.c"))
    r.explain = r'.explain ∧ r.outline ≠ r'.outline := by
  refine ⟨?_, by decide, by simp [outline]⟩
  intro h
  have hshown := (unbroken_outline_iff _).mp h.unbroken
  exact absurd (hshown "a\nb" (by decide)) (by decide)

end Relation

end PlanImport.Engine
