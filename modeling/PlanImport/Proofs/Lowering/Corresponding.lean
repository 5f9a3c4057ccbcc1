import PlanImport.Proofs.Lowering.FunctionNames
import PlanImport.Proofs.Scans.Mapped
import PlanImport.Proofs.Scans.Numbers

/-!
# Lowerings that correspond

Two contexts may differ in how they scan, and two runs in the number from which they start. If their
scans correspond, and functions have the same names, then everything they lower corresponds: they
refuse the same for the same cause, and what they end with differs in its scans alone.
-/

namespace PlanImport

open Engine Plan

/-! ### Runs that correspond -/

namespace Lowering

variable {α β γ δ : Type} {φ : Nat → Nat} {f : α → β} {g : γ → δ}

/-- From corresponding numbers two lowerings end with corresponding values or with the same refusal,
and the numbers for the next scan correspond again. -/
def Corresponds (φ : Nat → Nat) (f : α → β) (m : Lowering α) (m' : Lowering β) : Prop :=
  ∀ n, m'.runFrom (φ n) = ((m.runFrom n).1.map f, φ (m.runFrom n).2)

lemma corresponds_throw (e : Refusal) : Corresponds φ f (throw e) (throw e) := fun _ => rfl

lemma corresponds_pure {a : α} {b : β} (h : b = f a) : Corresponds φ f (pure a) (pure b) := by
  rw [h]
  exact fun _ => rfl

lemma corresponds_lift {r : Except Refusal α} {r' : Except Refusal β} (h : r' = r.map f) :
    Corresponds φ f (lift r) (lift r') := by
  rw [h]
  exact fun _ => rfl

/-- A step that numbers nothing is the same step in both lowerings. -/
lemma corresponds_lift_self (r : Except Refusal α) : Corresponds φ id (lift r) (lift r) :=
  corresponds_lift (by cases r <;> rfl)

/-- Lowerings correspond if their first steps do and what follows on each value that the first one
of them has. -/
lemma Corresponds.bind {m : Lowering α} {m' : Lowering β} {k : α → Lowering γ}
    {k' : β → Lowering δ} (hm : Corresponds φ f m m')
    (hk : ∀ a, (∃ n j, m.runFrom n = (.ok a, j)) → Corresponds φ g (k a) (k' (f a))) :
    Corresponds φ g (m >>= k) (m' >>= k') := by
  intro n
  rw [runFrom_bind, runFrom_bind, hm n]
  rcases hrun : m.runFrom n with ⟨r, j⟩
  cases r with
  | error e => rfl
  | ok a => exact hk a ⟨n, j, hrun⟩ j

end Lowering

namespace LoweringContext

open Lowering

variable {φ : Nat → Nat} {rename : String → String → String} {f : Relation → Relation}
  {c c' : LoweringContext}

/-- Two contexts know the same tables, and functions by the same names. Each scan of the first one
is taken to what it is in the second one: the lock may be taken in another way, and a call of a
table function may have another name. -/
structure ScansCorrespond (φ : Nat → Nat) (rename : String → String → String)
    (f : Relation → Relation) (c c' : LoweringContext) : Prop where
  functions : c.functions.SameNames c'.functions
  catalog : c'.catalog = c.catalog
  defaultSchema : c'.defaultSchema = c.defaultSchema
  shape : KeepsShape f
  name : ∀ function stem, scanStem? function = some stem →
    Corresponds φ (rename function) (scanName stem) (scanName stem)
  table : ∀ info, f (.table info c.lockMode) = .table info c'.lockMode
  view : ∀ info, f (.view info c.lockMode) = .view info c'.lockMode
  inline : ∀ rows, f (.inline rows c.lockMode) = .inline rows c'.lockMode
  tableFunction : ∀ name function parameters namedParameters,
    f (.aliased name (.tableFunction function parameters namedParameters c.lockMode)) =
      .aliased (rename function name)
        (.tableFunction function parameters namedParameters c'.lockMode)

/-- No input is a call of a table function, so that a name for it makes no scan of it. -/
lemma mapScans_aliased_of_lowerInput (f : Relation → Relation) (name : String) {field : String}
    {input : Option Rel} {names : Option (List String)} {r : Relation}
    (h : ∃ n k, (c.lowerInput field input names).runFrom n = (.ok r, k)) :
    (Relation.aliased name r).mapScans f = .aliased name (r.mapScans f) := by
  obtain ⟨n, k, h⟩ := h
  obtain ⟨rel, -, h⟩ := lowerInput_eq_ok.mp h
  rw [Relation.mapScans_aliased, if_neg (operator_ne_tableFunction_of_lowerRel h)]

namespace ScansCorrespond

/-! ### Scans -/

/-- Tables and views are known to both contexts alike. -/
lemma scanNamed (h : ScansCorrespond φ rename f c c') (schema name : String) :
    c'.scanNamed schema name = (c.scanNamed schema name).map (Relation.mapScans f) := by
  unfold LoweringContext.scanNamed
  rw [h.catalog]
  cases c.catalog.findTable schema name with
  | ok table => exact congrArg Except.ok (h.table table).symm
  | error error =>
    cases c.catalog.findView schema name with
    | ok view => exact congrArg Except.ok (h.view view).symm
    | error _ => rfl

lemma scanTable (h : ScansCorrespond φ rename f c c') (parts : List String) :
    c'.scanTable parts = (c.scanTable parts).map (Relation.mapScans f) := by
  rcases parts with _ | ⟨name, _ | ⟨name', _ | ⟨third, rest⟩⟩⟩
  · rfl
  · rw [LoweringContext.scanTable, LoweringContext.scanTable, h.defaultSchema, h.scanNamed]
  · rw [LoweringContext.scanTable, LoweringContext.scanTable, h.scanNamed]
  · rfl

/-- The rows of an inline table are lowered by the same functions. -/
lemma scanInline (h : ScansCorrespond φ rename f c c') (values : List (List Literal))
    (expressions : List (List Expression)) :
    c'.scanInline values expressions =
      (c.scanInline values expressions).map (Relation.mapScans f) := by
  have hlower : lowerAll c'.functions = lowerAll c.functions :=
    funext fun es => (h.functions.lowerAll_eq es).symm
  unfold LoweringContext.scanInline
  rw [hlower]
  split_ifs
  · cases expressions.mapM (lowerAll c.functions) with
    | ok rows => exact congrArg Except.ok (h.inline _).symm
    | error _ => rfl
  · cases values.mapM fun row => row.mapM Literal.value with
    | ok rows => exact congrArg Except.ok (h.inline _).symm
    | error _ => rfl

/-- A call of a table function is taken to one with the other name. -/
lemma namedScan (h : ScansCorrespond φ rename f c c') {function stem : String}
    (hstem : scanStem? function = some stem) (parameters : List Value)
    (namedParameters : List (String × Value)) :
    Corresponds φ (Relation.mapScans f)
      (scanName stem >>= fun name => pure (.aliased name
        (.tableFunction function parameters namedParameters c.lockMode)))
      (scanName stem >>= fun name => pure (.aliased name
        (.tableFunction function parameters namedParameters c'.lockMode))) :=
  (h.name function stem hstem).bind fun name _ =>
    corresponds_pure (h.tableFunction name function parameters namedParameters).symm

lemma scanFiles (h : ScansCorrespond φ rename f c c') (items : List FileItem) :
    Corresponds φ (Relation.mapScans f) (c.scanFiles items) (c'.scanFiles items) := by
  rw [LoweringContext.scanFiles, LoweringContext.scanFiles]
  split_ifs
  · exact (corresponds_throw (f := id) _).bind fun _ _ => (corresponds_lift_self _).bind
      fun paths _ => h.namedScan rfl _ _
  · exact (corresponds_lift_self _).bind fun paths _ => h.namedScan rfl _ _

/-- The file is checked before a number is taken, so a refusal takes none. -/
lemma scanMetadata (h : ScansCorrespond φ rename f c c') (file : Option MetadataFile) :
    Corresponds φ (Relation.mapScans f) (c.scanMetadata file) (c'.scanMetadata file) := by
  rw [LoweringContext.scanMetadata, LoweringContext.scanMetadata]
  refine (corresponds_lift_self _).bind fun file _ => ?_
  rw [id]
  split_ifs
  · exact (corresponds_throw (f := id) _).bind fun _ _ => (corresponds_lift_self _).bind
      fun snapshot _ => h.namedScan rfl _ _
  · exact (corresponds_lift_self _).bind fun snapshot _ => h.namedScan rfl _ _

lemma scan (h : ScansCorrespond φ rename f c c') (kind : ReadKind) :
    Corresponds φ (Relation.mapScans f) (c.scan kind) (c'.scan kind) := by
  cases kind with
  | unset | extensionTable => exact corresponds_throw _
  | namedTable parts => exact corresponds_lift (h.scanTable parts)
  | localFiles items => exact h.scanFiles items
  | virtualTable values expressions => exact corresponds_lift (h.scanInline values expressions)
  | icebergTable file => exact h.scanMetadata file

/-! ### Relations -/

/-- The filter and the choice of columns of a read are put on the other scan alike. -/
lemma lowerRead (h : ScansCorrespond φ rename f c c') (read : Read) :
    Corresponds φ (Relation.mapScans f) (c.lowerRead read) (c'.lowerRead read) := by
  refine (h.scan read.kind).bind fun scan _ => ?_
  refine (corresponds_lift (f := Relation.mapScans f) ?_).bind fun source _ => corresponds_lift ?_
  · rw [← h.functions.filtered_eq]
    cases read.filter with
    | none => rfl
    | some condition =>
      rw [filtered, filtered]
      cases condition.lower c.functions <;> rfl
  · unfold keepColumns
    split_ifs
    · rfl
    · cases read.projection.mapM keptColumn <;> rfl

/-- Inputs correspond if their relations do, and an absent one is refused with the same error. -/
lemma lowerInput (field : String) (input : Option Rel) (names : Option (List String))
    (ih : ∀ rel, input = some rel →
      Corresponds φ (Relation.mapScans f) (c.lowerRel rel names) (c'.lowerRel rel names)) :
    Corresponds φ (Relation.mapScans f) (c.lowerInput field input names)
      (c'.lowerInput field input names) := by
  cases input with
  | none => exact corresponds_throw _
  | some rel =>
    rw [LoweringContext.lowerInput, LoweringContext.lowerInput]
    exact ih rel rfl

/-- From corresponding numbers a relation is lowered to corresponding ones. The recursion follows
the relation, in which expressions and inputs come in the same order on both sides. -/
lemma lowerRel (h : ScansCorrespond φ rename f c c') (rel : Rel) (names : Option (List String)) :
    Corresponds φ (Relation.mapScans f) (c.lowerRel rel names) (c'.lowerRel rel names) := by
  match rel with
  | .unset | .other kind => exact corresponds_throw _
  | .read read =>
    rw [LoweringContext.lowerRel, LoweringContext.lowerRel]
    exact h.lowerRead read
  | .filter input condition =>
    rw [LoweringContext.lowerRel, LoweringContext.lowerRel, ← h.functions.lowerRequired_eq]
    exact (lowerInput _ input none fun rel _ => lowerRel h rel none).bind fun source _ =>
      (corresponds_lift_self _).bind fun e _ => corresponds_pure rfl
  | .fetch input offset count =>
    rw [LoweringContext.lowerRel, LoweringContext.lowerRel]
    exact (corresponds_lift_self _).bind fun bounds _ =>
      (lowerInput _ input names fun rel _ => lowerRel h rel names).bind fun source _ =>
      corresponds_pure rfl
  | .aggregate input groupings measures =>
    rw [LoweringContext.lowerRel, LoweringContext.lowerRel, ← h.functions.lowerGroups_eq,
      ← h.functions.lowerMeasure_eq]
    exact (corresponds_lift_self _).bind fun groups _ =>
      (corresponds_lift_self _).bind fun calls _ =>
      (lowerInput _ input none fun rel _ => lowerRel h rel none).bind fun source _ =>
      corresponds_pure rfl
  | .sort input sorts =>
    rw [LoweringContext.lowerRel, LoweringContext.lowerRel, ← h.functions.lowerSortField_eq]
    exact (corresponds_lift_self _).bind fun keys _ =>
      (lowerInput _ input names fun rel _ => lowerRel h rel names).bind fun source _ =>
      corresponds_pure rfl
  | .join left right condition type =>
    rw [LoweringContext.lowerRel, LoweringContext.lowerRel, ← h.functions.lowerRequired_eq]
    refine (corresponds_lift_self _).bind fun kind _ => (corresponds_lift_self _).bind fun e _ =>
      (lowerInput _ left none fun rel _ => lowerRel h rel none).bind fun source hsource =>
      (lowerInput _ right none fun rel _ => lowerRel h rel none).bind fun source' hsource' =>
      corresponds_pure ?_
    rw [Relation.mapScans, mapScans_aliased_of_lowerInput f _ hsource,
      mapScans_aliased_of_lowerInput f _ hsource']
    rfl
  | .cross left right =>
    rw [LoweringContext.lowerRel, LoweringContext.lowerRel]
    refine (lowerInput _ left none fun rel _ => lowerRel h rel none).bind fun source hsource =>
      (lowerInput _ right none fun rel _ => lowerRel h rel none).bind fun source' hsource' =>
      corresponds_pure ?_
    rw [Relation.mapScans, mapScans_aliased_of_lowerInput f _ hsource,
      mapScans_aliased_of_lowerInput f _ hsource']
  | .project input expressions =>
    rw [LoweringContext.lowerRel, LoweringContext.lowerRel, ← h.functions.lowerProjected_eq]
    exact (corresponds_lift_self _).bind fun columns _ =>
      (lowerInput _ input none fun rel _ => lowerRel h rel none).bind fun source _ =>
      corresponds_pure rfl
  | .set [left, right] op =>
    rw [LoweringContext.lowerRel, LoweringContext.lowerRel]
    exact (corresponds_lift_self _).bind fun op _ => (lowerRel h left none).bind fun source _ =>
      (lowerRel h right names).bind fun source' _ => corresponds_pure rfl
  | .set [] op | .set [_] op | .set (_ :: _ :: _ :: _) op =>
    rw [LoweringContext.lowerRel, LoweringContext.lowerRel]
    exact (corresponds_lift_self _).bind fun op _ => corresponds_throw _
  | .write target op input =>
    rw [LoweringContext.lowerRel, LoweringContext.lowerRel]
    exact (corresponds_lift_self _).bind fun target _ =>
      (lowerInput _ input none fun rel _ => lowerRel h rel none).bind fun source _ =>
      (corresponds_lift (writeEffect_mapScans h.shape op source)).bind fun effect _ =>
      corresponds_pure rfl
termination_by rel

/-! ### Roots and plans -/

lemma lowerRoot (h : ScansCorrespond φ rename f c c') (root : Root) :
    Corresponds φ (Relation.mapScans f) (c.lowerRoot root) (c'.lowerRoot root) := by
  refine (lowerInput _ root.input _ fun rel _ => h.lowerRel rel _).bind fun source _ => ?_
  rw [Relation.columnNames_mapScans h.shape]
  exact (corresponds_lift_self _).bind fun names _ =>
    corresponds_pure (Relation.withNames_mapScans h.shape source names)

/-- Plans with the same first relation are lowered to relations that differ in their scans alone. -/
theorem lowerPlan (h : ScansCorrespond φ rename f c c') {p p' : Plan}
    (hfirst : p.relations.head? = p'.relations.head?) :
    Corresponds φ (Relation.mapScans f) (c.lowerPlan p) (c'.lowerPlan p') := by
  rw [LoweringContext.lowerPlan, LoweringContext.lowerPlan]
  rcases hp : p.relations with _ | ⟨first, rest⟩
  · rw [hp, List.head?_nil, eq_comm, List.head?_eq_none_iff] at hfirst
    rw [hfirst]
    exact corresponds_throw _
  · rw [hp, List.head?_cons, eq_comm, List.head?_eq_some_iff] at hfirst
    obtain ⟨rest', hp'⟩ := hfirst
    rw [hp']
    cases first with
    | unset => exact corresponds_throw _
    | rel rel => exact h.lowerRel rel none
    | root root => exact h.lowerRoot root

end ScansCorrespond

end LoweringContext

end PlanImport
