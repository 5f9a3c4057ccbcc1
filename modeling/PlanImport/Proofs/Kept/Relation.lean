import PlanImport.Proofs.Kept.Calls
import PlanImport.Proofs.Naming.FlatList
import PlanImport.Proofs.Lowering.Rel

/-!
# What a lowered relation keeps

A relation that is lowered keeps the rows of its inline tables and the calls of its expressions,
wherever in it they are, and has all functions declared that it refers to. Two things are dropped
without a refusal: the rows of expressions of a table that has rows of literals, and the options of
calls that do not extract a part of a date.
-/

namespace PlanImport

open Engine

namespace Plan

/-! ### What relations of a plan give -/

/-- The rows of an inline table: those of literals and those of expressions. -/
structure InlineTable where
  values : List (List Literal)
  expressions : List (List Expression)

namespace InlineTable

def literalRows (t : InlineTable) : List (List Expression) := t.values.map (·.map .literal)

def rows (t : InlineTable) : List (List Expression) := t.literalRows ++ t.expressions

/-- The rows that count: those of expressions only if there are none of literals. -/
def countedRows (t : InlineTable) : List (List Expression) :=
  if t.values.isEmpty then t.expressions else t.literalRows

end InlineTable

/-- The inline table that is read, if it is one. -/
def ReadKind.tables : ReadKind → List InlineTable
  | .virtualTable values expressions => [⟨values, expressions⟩]
  | _ => []

def measureCalls : Option AggregateFunction → List FunctionCall
  | none => []
  | some f => argumentCalls f.arguments

namespace Rel

mutual

/-- A relation with all relations that it is computed from, each in front of its inputs. -/
def parts : Rel → List Rel
  | .unset => [.unset]
  | .read r => [.read r]
  | .filter input condition => .filter input condition :: inputParts input
  | .fetch input offset count => .fetch input offset count :: inputParts input
  | .aggregate input groupings measures =>
    .aggregate input groupings measures :: inputParts input
  | .sort input sorts => .sort input sorts :: inputParts input
  | .join left right condition type =>
    .join left right condition type :: inputParts left ++ inputParts right
  | .cross left right => .cross left right :: inputParts left ++ inputParts right
  | .project input expressions => .project input expressions :: inputParts input
  | .set inputs op => .set inputs op :: allParts inputs
  | .write target op input => .write target op input :: inputParts input
  | .other kind => [.other kind]

def inputParts : Option Rel → List Rel
  | none => []
  | some rel => rel.parts

def allParts : List Rel → List Rel
  | [] => []
  | rel :: rest => rel.parts ++ allParts rest

end

/-- The inline table of a relation itself, not of its inputs. -/
def ownTables : Rel → List InlineTable
  | .read r => r.kind.tables
  | _ => []

/-- The calls in the expressions of a relation itself, with the given rows of its inline table. -/
def ownCalls (rowsOf : InlineTable → List (List Expression)) : Rel → List FunctionCall
  | .read r => optionalCalls r.filter ++ (r.kind.tables.flatMap rowsOf).flatMap allCalls
  | .filter _ condition => optionalCalls condition
  | .aggregate _ groupings measures => allCalls groupings.flatten ++ measures.flatMap measureCalls
  | .sort _ sorts => sorts.flatMap fun f => optionalCalls f.expr
  | .join _ _ condition _ => optionalCalls condition
  | .project _ expressions => allCalls expressions
  | .unset | .fetch .. | .cross .. | .set .. | .write .. | .other _ => []

/-- The anchors of the aggregate functions of a relation itself. -/
def ownAggregates : Rel → List UInt32
  | .aggregate _ _ measures => measures.filterMap fun measure => measure.map (·.anchor)
  | _ => []

def tables (rel : Rel) : List InlineTable := rel.parts.flatMap ownTables

/-- The calls in a relation, with the given rows of its inline tables. -/
def calls (rel : Rel) (rowsOf : InlineTable → List (List Expression)) : List FunctionCall :=
  rel.parts.flatMap (ownCalls rowsOf)

/-- The anchors that calls and measures in a relation refer to, with the given rows of its inline
tables. -/
def anchors (rel : Rel) (rowsOf : InlineTable → List (List Expression)) : List UInt32 :=
  (rel.calls rowsOf).map FunctionCall.anchor ++ rel.parts.flatMap ownAggregates

end Rel

end Plan

/-! ### What the engine's relations hold -/

namespace Engine

def InlineRows.rows : InlineRows → List (List Expr)
  | constants rows => rows.map (·.map .constant)
  | expressions rows => rows

mutual

/-- A relation with all relations that it is computed from, each in front of its inputs. -/
def Relation.parts : Relation → List Relation
  | .table info lock => [.table info lock]
  | .view info lock => [.view info lock]
  | .tableFunction name parameters namedParameters lock =>
    [.tableFunction name parameters namedParameters lock]
  | .inline rows lock => [.inline rows lock]
  | .aliased name input => .aliased name input :: input.parts
  | .filter input condition => .filter input condition :: input.parts
  | .project input expressions names => .project input expressions names :: input.parts
  | .aggregate input expressions groups => .aggregate input expressions groups :: input.parts
  | .join left right condition kind => .join left right condition kind :: left.parts ++ right.parts
  | .product left right => .product left right :: left.parts ++ right.parts
  | .limit input limit offset => .limit input limit offset :: input.parts
  | .sort input keys => .sort input keys :: input.parts
  | .setOperation left right op => .setOperation left right op :: left.parts ++ right.parts
  | .write target effect => .write target effect :: effect.parts

def WriteEffect.parts : WriteEffect → List Relation
  | .createTableAs input => input.parts
  | .insert input => input.parts
  | .delete _ => []

end

namespace Relation

/-- The rows of the inline table that a relation itself is. -/
def ownInlines : Relation → List InlineRows
  | inline rows _ => [rows]
  | _ => []

/-- The expressions of a relation itself and those inside of them. -/
def ownSubexpressions : Relation → List Expr
  | inline rows _ => rows.rows.flatMap Expr.allSubexpressions
  | filter _ condition => condition.subexpressions
  | project _ expressions _ => Expr.allSubexpressions expressions
  | aggregate _ expressions _ => Expr.allSubexpressions expressions
  | join _ _ condition _ => condition.subexpressions
  | sort _ keys => keys.flatMap fun key => key.expr.subexpressions
  | write _ (.delete condition) => condition.subexpressions
  | table .. | view .. | tableFunction .. | aliased .. | product .. | limit .. | setOperation ..
  | write .. => []

def inlines (r : Relation) : List InlineRows := r.parts.flatMap ownInlines

def subexpressions (r : Relation) : List Expr := r.parts.flatMap ownSubexpressions

end Relation

end Engine

/-! ### What is kept -/

open Plan

/-- What a relation keeps of the one of a plan that it stands for, if the given rows of inline
tables count and the given functions heed options. -/
structure Engine.Relation.Keeps (r : Relation) (functions : FunctionTable) (rel : Rel)
    (rowsOf : InlineTable → List (List Expression)) (heeds : String → Prop) : Prop where
  /-- The inline tables are those of the plan in their order, and each has the rows of its own. -/
  rows : List.Forall₂ (fun table inline => ∀ row ∈ rowsOf table,
    ∃ es ∈ inline.rows, lowerAll functions row = .ok es) rel.tables r.inlines
  /-- Every call is lowered to an expression inside of the relation, in the order of the calls. -/
  calls : CallsIn functions (rel.calls rowsOf) r.subexpressions
  /-- The options of calls that heed them are constants in what these are lowered to. -/
  options : ∀ call ∈ rel.calls rowsOf, ∀ name e, functions.find call.anchor = .ok name →
    heeds (plainName name) → call.lower functions = .ok e →
    ∀ option ∈ call.options, .constant (.varchar option) ∈ e.subexpressions
  /-- Without their options all other calls are lowered to the same. -/
  unheeded : ∀ call ∈ rel.calls rowsOf, ∀ name e, functions.find call.anchor = .ok name →
    ¬ heeds (plainName name) → call.lower functions = .ok e →
    call.withoutOptions.lower functions = .ok e
  /-- Every function that a call or a measure refers to is declared. -/
  declared : ∀ anchor ∈ rel.anchors rowsOf, ∃ name, functions.find anchor = .ok name

/-! ### Items that are lowered one by one -/

/-- What is kept of each item is kept of all of them. -/
lemma callsIn_flatMap {α β : Type} {functions : FunctionTable} {f : α → Except Refusal β}
    {calls : α → List FunctionCall} {parts : β → List Expr} {as : List α} {bs : List β}
    (h : as.mapM f = .ok bs)
    (hf : ∀ a b, f a = .ok b → CallsIn functions (calls a) (parts b)) :
    CallsIn functions (as.flatMap calls) (bs.flatMap parts) := by
  rw [mapM_eq_ok_iff_forall₂] at h
  induction h with
  | nil => exact .nil
  | cons hb _ ih =>
    rw [List.flatMap_cons, List.flatMap_cons]
    exact sublistForall₂_append (hf _ _ hb) ih

/-! ### One relation after the other -/

/-- What relations of a plan give is kept in relations of the engine. -/
structure KeepsAll (functions : FunctionTable) (rels : List Rel) (rs : List Relation) : Prop where
  /-- Each inline table has the rows that count, and only these. -/
  rows : List.Forall₂
    (fun table inline => table.countedRows.mapM (lowerAll functions) = .ok inline.rows)
    (rels.flatMap Rel.ownTables) (rs.flatMap Relation.ownInlines)
  calls : CallsIn functions (rels.flatMap (Rel.ownCalls InlineTable.countedRows))
    (rs.flatMap Relation.ownSubexpressions)
  aggregates : ∀ anchor ∈ rels.flatMap Rel.ownAggregates,
    ∃ name, functions.find anchor = .ok name

namespace KeepsAll

variable {functions : FunctionTable} {rels rels' : List Rel} {rs rs' : List Relation}

/-- What is kept of some relations and of others is kept of all of them. -/
lemma append (h : KeepsAll functions rels rs) (h' : KeepsAll functions rels' rs') :
    KeepsAll functions (rels ++ rels') (rs ++ rs') := by
  constructor
  · rw [List.flatMap_append, List.flatMap_append]
    exact List.rel_append h.rows h'.rows
  · rw [List.flatMap_append, List.flatMap_append]
    exact sublistForall₂_append h.calls h'.calls
  · rw [List.flatMap_append]
    exact List.forall_mem_append.mpr ⟨h.aggregates, h'.aggregates⟩

/-- A relation that only has expressions is kept if its calls are. -/
lemma cons {rel : Rel} {r : Relation} (htables : rel.ownTables = []) (hinlines : r.ownInlines = [])
    (hcalls : CallsIn functions (rel.ownCalls InlineTable.countedRows) r.ownSubexpressions)
    (haggregates : ∀ anchor ∈ rel.ownAggregates, ∃ name, functions.find anchor = .ok name)
    (h : KeepsAll functions rels rs) : KeepsAll functions (rel :: rels) (r :: rs) := by
  have hown : KeepsAll functions [rel] [r] := by
    constructor
    · simp [htables, hinlines]
    · simpa using hcalls
    · simpa using haggregates
  exact hown.append h

/-- Another name adds nothing. -/
lemma aliased (h : KeepsAll functions rels rs) (name : String) (r : Relation) :
    KeepsAll functions rels (.aliased name r :: rs) :=
  ⟨h.rows, h.calls, h.aggregates⟩

end KeepsAll

/-! ### Reads -/

/-- Rows of literals can be looked at as rows of expressions. -/
lemma lowerAll_literals {functions : FunctionTable} {row : List Literal} {vs : List Value}
    (h : row.mapM Literal.value = .ok vs) :
    lowerAll functions (row.map .literal) = .ok (vs.map .constant) := by
  induction row generalizing vs with
  | nil =>
    cases h
    rfl
  | cons l row ih =>
    rw [List.mapM_cons, bind_eq_ok] at h
    obtain ⟨v, hv, h⟩ := h
    obtain ⟨vs, hvs, h⟩ := bind_eq_ok.mp h
    cases h
    rw [List.map_cons, lowerAll, Expression.lower, hv, ih hvs]
    rfl

namespace LoweringContext

variable {c : LoweringContext} {n k : Nat} {r : Relation}

/-- An inline table has the rows that count, and no others. -/
lemma scanInline_eq_ok {values : List (List Literal)} {expressions : List (List Expression)}
    (h : c.scanInline values expressions = .ok r) : ∃ inline, r = .inline inline c.lockMode ∧
      (InlineTable.mk values expressions).countedRows.mapM (lowerAll c.functions) =
        .ok inline.rows := by
  unfold scanInline at h
  unfold InlineTable.countedRows
  split_ifs at h with hvalues
  · obtain ⟨rows, hrows, h⟩ := bind_eq_ok.mp h
    cases h
    refine ⟨.expressions rows, rfl, ?_⟩
    rw [if_pos hvalues]
    exact hrows
  · obtain ⟨rows, hrows, h⟩ := bind_eq_ok.mp h
    cases h
    refine ⟨.constants rows, rfl, ?_⟩
    rw [if_neg hvalues, mapM_eq_ok_iff_forall₂, InlineTable.literalRows, InlineRows.rows,
      List.forall₂_map_left_iff, List.forall₂_map_right_iff]
    exact (mapM_eq_ok_iff_forall₂.mp hrows).imp fun _ _ => lowerAll_literals

/-- Anything but an inline table has neither rows nor calls of its own. -/
lemma keepsAll_of_tables_eq_nil {kind : ReadKind} {fields : List Int32} (hkind : kind.tables = [])
    (hr : r.inlines = []) : KeepsAll c.functions [.read ⟨kind, none, fields⟩] r.parts := by
  refine ⟨?_, ?_, nofun⟩
  · rw [List.flatMap_singleton, Rel.ownTables, hkind, ← Relation.inlines, hr]
    exact .nil
  · rw [List.flatMap_singleton, Rel.ownCalls, hkind]
    exact .nil

/-- Of the scans only inline tables have calls. -/
lemma keepsAll_scan (fields : List Int32) {kind : ReadKind}
    (h : (c.scan kind).runFrom n = (.ok r, k)) :
    KeepsAll c.functions [.read ⟨kind, none, fields⟩] r.parts := by
  cases kind with
  | unset | extensionTable => cases h
  | namedTable names =>
    obtain ⟨info, rfl | rfl⟩ := exists_of_scanTable (Prod.mk.inj h).1
    · exact keepsAll_of_tables_eq_nil rfl rfl
    · exact keepsAll_of_tables_eq_nil rfl rfl
  | localFiles items =>
    obtain ⟨-, paths, -, rfl, -⟩ := scanFiles_eq_ok.mp h
    exact keepsAll_of_tables_eq_nil rfl rfl
  | icebergTable file =>
    obtain ⟨f, snapshot, -, -, -, rfl, -⟩ := scanMetadata_eq_ok.mp h
    exact keepsAll_of_tables_eq_nil rfl rfl
  | virtualTable values expressions =>
    obtain ⟨inline, rfl, hrows⟩ := scanInline_eq_ok (Prod.mk.inj h).1
    have hcalls := callsIn_flatMap hrows fun row es => callsIn_lowerAll row
    refine ⟨.cons hrows .nil, ?_, nofun⟩
    simpa [Rel.ownCalls, ReadKind.tables, optionalCalls, Relation.parts,
      Relation.ownSubexpressions] using hcalls

/-- A read keeps its condition besides what the scan keeps; the columns that are chosen have no
calls. -/
lemma keepsAll_lowerRead {read : Read} (h : (c.lowerRead read).runFrom n = (.ok r, k)) :
    KeepsAll c.functions [.read read] r.parts := by
  obtain ⟨kind, filter, fields⟩ := read
  obtain ⟨scan, source, hscan, hsource, hfields⟩ := lowerRead_eq_ok.mp h
  have hkeeps : KeepsAll c.functions [.read ⟨kind, filter, fields⟩] source.parts := by
    have hscan := keepsAll_scan fields hscan
    rcases filtered_eq_ok.mp hsource with ⟨hfilter, rfl⟩ | ⟨condition, e, hfilter, he, rfl⟩
    · cases hfilter
      exact hscan
    · cases hfilter
      refine ⟨hscan.rows, ?_, hscan.aggregates⟩
      have hcalls := sublistForall₂_append (condition.callsIn_lower he) hscan.calls
      simpa [CallsIn, Rel.ownCalls, optionalCalls, Relation.parts,
        Relation.ownSubexpressions] using hcalls
  rcases keepColumns_eq_ok.mp hfields with ⟨-, rfl⟩ | ⟨-, columns, -, rfl⟩
  · exact hkeeps
  · exact ⟨hkeeps.rows, sublistForall₂_of_sublist hkeeps.calls (List.sublist_append_right _ _),
      hkeeps.aggregates⟩

/-! ### Relations -/

lemma callsIn_lowerProjected {names : Option (List String)} {expressions : List Expression}
    {columns : List Expr} (h : c.lowerProjected names expressions = .ok columns) :
    CallsIn c.functions (allCalls expressions) (Expr.allSubexpressions columns) := by
  cases names with
  | none => exact callsIn_lowerAll expressions h
  | some names => exact callsIn_lowerColumns h

lemma callsIn_lowerGroups {groupings : List (List Expression)} {groups : List Expr}
    (h : c.lowerGroups groupings = .ok groups) :
    CallsIn c.functions (allCalls groupings.flatten) (Expr.allSubexpressions groups) := by
  unfold lowerGroups at h
  split_ifs at h
  exact callsIn_lowerAll _ h

lemma callsIn_lowerAggregateArguments {arguments : List Argument} {args : List Expr}
    (h : arguments.mapM c.lowerAggregateArgument = .ok args) :
    CallsIn c.functions (argumentCalls arguments) (Expr.allSubexpressions args) := by
  rw [mapM_eq_ok_iff_forall₂] at h
  induction h with
  | nil => exact .nil
  | @cons argument e arguments args he _ ih =>
    cases argument with
    | value e' => exact sublistForall₂_append (e'.callsIn_lower he) ih
    | _ => cases he

/-- The calls in a measure are those in its arguments, as the aggregate itself is none of them. -/
lemma callsIn_lowerMeasure {measure : Option AggregateFunction} {e : Expr}
    (h : c.lowerMeasure measure = .ok e) :
    CallsIn c.functions (measureCalls measure) e.subexpressions := by
  simp only [lowerMeasure, bind_eq_ok] at h
  obtain ⟨f, hf, args, hargs, declared, -, h⟩ := h
  cases h
  cases measure with
  | none => cases hf
  | some f' =>
    cases hf
    exact .cons_right (callsIn_lowerAggregateArguments hargs)

lemma declared_of_lowerMeasure {f : AggregateFunction} {e : Expr}
    (h : c.lowerMeasure (some f) = .ok e) : ∃ name, c.functions.find f.anchor = .ok name := by
  simp only [lowerMeasure, bind_eq_ok] at h
  obtain ⟨f', hf, args, -, declared, hdeclared, -⟩ := h
  cases hf
  exact ⟨declared, hdeclared⟩

/-- What a write keeps of its input: all of it, or the condition that it is filtered by. -/
lemma keepsAll_write {input : Rel} {target : WriteTarget} {op : Int32} {source : Relation}
    {name : TargetName} {effect : WriteEffect}
    (hsource : KeepsAll c.functions input.parts source.parts)
    (h : writeEffect op source = .ok effect) :
    KeepsAll c.functions (Rel.write target op (some input)).parts
      (Relation.write name effect).parts := by
  unfold writeEffect at h
  split_ifs at h
  · cases h
    exact ⟨hsource.rows, hsource.calls, hsource.aggregates⟩
  · cases h
    exact ⟨hsource.rows, hsource.calls, hsource.aggregates⟩
  · split at h
    · -- The scan that a delete drops has neither rows nor expressions of its own.
      cases h
      exact ⟨hsource.rows, hsource.calls, hsource.aggregates⟩
    · cases h

/-- Whatever relation is lowered, all that it and its inputs give is kept. -/
lemma Lowers.keepsAll {rel : Rel} {names : Option (List String)} (h : Lowers c rel names n r k) :
    KeepsAll c.functions rel.parts r.parts := by
  induction h with
  | read h => exact keepsAll_lowerRead h
  | filter _ he ih => exact .cons rfl rfl (callsIn_lowerRequired _ he) nofun ih
  | fetch _ _ ih => exact .cons rfl rfl .nil nofun ih
  | @aggregate _ _ _ _ _ _ _ groups _ hgroups hcalls _ ih =>
    refine .cons rfl rfl ?_ ?_ ih
    · -- The output columns are the group keys and then the measures.
      rw [Relation.ownSubexpressions, Expr.allSubexpressions_eq_flatMap, List.flatMap_append,
        ← Expr.allSubexpressions_eq_flatMap groups]
      exact sublistForall₂_append (callsIn_lowerGroups hgroups)
        (callsIn_flatMap hcalls fun measure e => callsIn_lowerMeasure)
    · intro anchor hanchor
      obtain ⟨measure, hmem, hmeasure⟩ := List.mem_filterMap.mp hanchor
      obtain ⟨f, rfl, rfl⟩ := Option.map_eq_some_iff.mp hmeasure
      obtain ⟨e, -, he⟩ := exists_of_mem_forall₂ (mapM_eq_ok_iff_forall₂.mp hcalls) hmem
      exact declared_of_lowerMeasure he
  | sort hkeys _ ih =>
    refine .cons rfl rfl (callsIn_flatMap hkeys fun field key hkey => ?_) nofun ih
    obtain ⟨number, -, -, he⟩ := lowerSortField_eq_ok.mp hkey
    exact callsIn_lowerRequired field.expr he
  | join _ he _ _ ih ih' =>
    exact .cons rfl rfl (callsIn_lowerRequired _ he) nofun
      (.append (ih.aliased _ _) (ih'.aliased _ _))
  | cross _ _ ih ih' =>
    exact .cons rfl rfl .nil nofun (.append (ih.aliased _ _) (ih'.aliased _ _))
  | project hcolumns _ ih => exact .cons rfl rfl (callsIn_lowerProjected hcolumns) nofun ih
  | set _ _ _ ih ih' =>
    refine .cons rfl rfl .nil nofun ?_
    rw [Rel.allParts, Rel.allParts, Rel.allParts, List.append_nil]
    exact ih.append ih'
  | write _ _ heffect ih => exact keepsAll_write ih heffect

/-- Whatever relation is lowered, with whatever names and catalog, keeps the rows that count and the
calls of itself and of all its inputs, and only the extraction of a part of a date has options that
matter. -/
theorem lowerRel_keeps (rel : Rel) (names : Option (List String))
    (h : (c.lowerRel rel names).runFrom n = (.ok r, k)) :
    r.Keeps c.functions rel InlineTable.countedRows (· = "extract") := by
  have hkeeps := (lowers_of_lowerRel rel names h).keepsAll
  constructor
  · refine hkeeps.rows.imp fun table inline hrows row hrow => ?_
    exact exists_of_mem_forall₂ (mapM_eq_ok_iff_forall₂.mp hrows) hrow
  · exact hkeeps.calls
  · intro call _ name e hname hextract he option hoption
    obtain ⟨part, args, hoptions, rfl⟩ := FunctionCall.lower_extract hname hextract he
    rw [hoptions, List.mem_singleton] at hoption
    rw [hoption]
    simp [Expr.subexpressions, Expr.allSubexpressions]
  · intro call _ name e hname hextract he
    exact FunctionCall.lower_withoutOptions hname hextract he
  · refine List.forall_mem_append.mpr ⟨?_, hkeeps.aggregates⟩
    intro anchor hanchor
    obtain ⟨call, hcall, rfl⟩ := List.mem_map.mp hanchor
    obtain ⟨e, -, he⟩ := exists_of_mem_sublistForall₂ hkeeps.calls hcall
    obtain ⟨name, args, hname, -⟩ := FunctionCall.lower_eq_ok.mp he
    exact ⟨name, hname⟩

/-- The extraction of parts of a date, counting and rounding under three anchors. -/
def calendarContext : LoweringContext where
  functions := .ofDeclarations [.function 0 1 "extract:req_date", .function 0 2 "count",
    .function 0 3 "round:fp64"]
  catalog := Catalog.empty
  acquireLock := true
  defaultSchema := "main"

/-- The years of an inline table of dates, and how often each is there. -/
def yearsRel : Rel :=
  .aggregate (some (.read ⟨.virtualTable [] [[.call 1 [.option "year",
    .value (.literal ⟨.date 0, false⟩)]]], none, []⟩)) [[inputField 0]] [some ⟨2, 1, []⟩]

/-- What that relation is lowered to. -/
def years : Relation :=
  .aggregate (.inline (.expressions [[.call "date_part" [.constant (.varchar "year"),
    .constant (.date 0)] false]]) .acquire) [.column 1, .call "count_star" [] false] [.column 1]

theorem lowerRel_keeps_years :
    (calendarContext.lowerRel yearsRel none).runFrom 0 = (.ok years, 0) ∧
      years.Keeps calendarContext.functions yearsRel InlineTable.countedRows (· = "extract") :=
  ⟨rfl, lowerRel_keeps (c := calendarContext) (n := 0) (k := 0) yearsRel none rfl⟩

/-- An inline table with a row of literals and a row of expressions, which refers to a function that
is not declared. -/
def mixedRel : Rel := .read ⟨.virtualTable [[⟨.i32 1, false⟩]] [[.call 9 []]], none, []⟩

/-- A projection with a call of a function that is given an option. -/
def roundedRel : Rel :=
  .project (some (.read ⟨.virtualTable [[⟨.fp64 0, false⟩]] [], none, []⟩))
    [.call 3 [.option "TIE_TO_EVEN", .value (inputField 0)]]

/-- Rows of expressions next to rows of literals are dropped, whatever they refer to, and so are
the options of a function that does not know any. -/
theorem lowerRel_not_keeps :
    (∃ r, (calendarContext.lowerRel mixedRel none).runFrom 0 = (.ok r, 0) ∧
      ¬ r.Keeps calendarContext.functions mixedRel InlineTable.rows fun _ => True) ∧
    (∃ r, (calendarContext.lowerRel roundedRel none).runFrom 0 = (.ok r, 0) ∧
      ¬ r.Keeps calendarContext.functions roundedRel InlineTable.rows fun _ => True) := by
  constructor
  · refine ⟨_, rfl, fun h => ?_⟩
    obtain ⟨name, hname⟩ := h.declared 9 (by decide)
    cases hname
  · refine ⟨_, rfl, fun h => ?_⟩
    have hoption := h.options ⟨3, [.option "TIE_TO_EVEN", .value (inputField 0)]⟩
      List.mem_cons_self "round:fp64" _ rfl trivial rfl "TIE_TO_EVEN" List.mem_cons_self
    simp [Expr.subexpressions, Expr.allSubexpressions] at hoption

end LoweringContext

end PlanImport
