import Mathlib.Data.List.Basic
import PlanImport.Lowering.Root
import PlanImport.Proofs.Lowering.Rel
import PlanImport.Proofs.Number.Digits

/-!
# Numbers of scans

Each call of a table function stands under a name that ends with a number. From left to right the
numbers in a relation count on from the number at which its lowering started, and the next scan gets
the number after the last one: each number that a lowering takes is found in what it ends with.
-/

namespace PlanImport

open Engine Plan

/-! ### Names of scans -/

/-- The stem of the names of calls of a table function. -/
def scanStem? : String → Option String
  | "parquet_scan" => some "parquet"
  | "iceberg_scan" => some "iceberg"
  | _ => none

/-- The number in the name of a call of a table function: behind the stem of the function and an
underscore there are the digits of the number and nothing else. -/
def scanNumber? (scan : String × String) : Option Nat := do
  let stem ← scanStem? scan.2
  let ds ← (stem ++ "_").toList.isPrefixOf? scan.1.toList
  let number := IntText.value ds
  if Text.digits number = ds then some number else none

/-- A number is read from a name exactly if the name was made with it. -/
lemma scanNumber?_eq_some_iff {name function : String} {number : Nat} :
    scanNumber? (name, function) = some number ↔ ∃ stem, scanStem? function = some stem ∧
      name = stem ++ "_" ++ .ofList (Text.digits number) := by
  unfold scanNumber?
  cases scanStem? function with
  | none => simp
  | some stem =>
    simp only [Option.bind_eq_bind, Option.bind_some, Option.some.injEq, exists_eq_left']
    rw [Option.bind_eq_some_iff]
    constructor
    · rintro ⟨ds, hprefix, h⟩
      split_ifs at h with hds
      cases h
      rw [List.isPrefixOf?_eq_some_iff_append_eq] at hprefix
      rw [← String.toList_inj, ← hprefix, hds]
      simp
    · rintro rfl
      refine ⟨Text.digits number, ?_, by rw [IntText.value_digits, if_pos rfl]⟩
      rw [List.isPrefixOf?_eq_some_iff_append_eq]
      simp

namespace Engine

mutual

/-- The calls of table functions in a relation from left to right: the name that each is given and
the function. -/
def Relation.scans : Relation → List (String × String)
  | .aliased name (.tableFunction function ..) => [(name, function)]
  | .tableFunction function .. => [("", function)]
  | .table .. | .view .. | .inline .. => []
  | .aliased _ input => input.scans
  | .filter input _ => input.scans
  | .project input _ _ => input.scans
  | .aggregate input _ _ => input.scans
  | .limit input _ _ => input.scans
  | .sort input _ => input.scans
  | .join left right _ _ => left.scans ++ right.scans
  | .product left right => left.scans ++ right.scans
  | .setOperation left right _ => left.scans ++ right.scans
  | .write _ effect => effect.scans

def WriteEffect.scans : WriteEffect → List (String × String)
  | .createTableAs input => input.scans
  | .insert input => input.scans
  | .delete _ => []

end

/-- The numbers in the names of all scans of a relation, from left to right. -/
def Relation.scanNumbers? (r : Relation) : Option (List Nat) := r.scans.mapM scanNumber?

/-- A name for anything but a call of a table function makes no scan. -/
lemma Relation.scans_aliased (name : String) {r : Relation} (h : r.operator ≠ "TableFunction") :
    (aliased name r).scans = r.scans := by
  cases r with
  | tableFunction => exact absurd rfl h
  | _ => rw [scans.eq_def]

end Engine

/-! ### Numbers that follow on each other -/

/-- Scans are numbered from one number on, up to the number of the next scan. -/
def Numbered (scans : List (String × String)) (n k : Nat) : Prop :=
  n ≤ k ∧ scans.mapM scanNumber? = some (List.range' n (k - n))

lemma Numbered.nil (n : Nat) : Numbered [] n n := ⟨Nat.le_refl n, by simp⟩

lemma Numbered.single {name function : String} {n : Nat}
    (h : scanNumber? (name, function) = some n) : Numbered [(name, function)] n (n + 1) :=
  ⟨Nat.le_succ n, by simp [h]⟩

/-- Scans that are numbered on from where others have stopped are numbered with them. -/
lemma Numbered.append {scans scans' : List (String × String)} {n j k : Nat}
    (h : Numbered scans n j) (h' : Numbered scans' j k) : Numbered (scans ++ scans') n k := by
  obtain ⟨hle, hscans⟩ := h
  obtain ⟨hle', hscans'⟩ := h'
  refine ⟨Nat.le_trans hle hle', ?_⟩
  have hsum : k - n = (j - n) + (k - j) := by omega
  have hstart : j = n + (j - n) := by omega
  rw [List.mapM_append, hscans, hscans', hsum, ← List.range'_append_1, ← hstart]
  rfl

/-! ### Numbers that are taken -/

namespace Lowering

variable {α β : Type}

/-- A lowering never goes back to an earlier number, not even when it is refused. -/
def Counts (m : Lowering α) : Prop := ∀ n, n ≤ (m.runFrom n).2

lemma counts_pure (a : α) : Counts (pure a) := fun n => Nat.le_refl n

lemma counts_throw (e : Refusal) : Counts (throw e : Lowering α) := fun n => Nat.le_refl n

lemma counts_lift (r : Except Refusal α) : Counts (lift r) := fun n => Nat.le_refl n

lemma counts_scanName (stem : String) : Counts (scanName stem) := fun n => Nat.le_succ n

/-- The next number never goes back from one part of a lowering to the next. -/
lemma Counts.bind {m : Lowering α} {f : α → Lowering β} (hm : Counts m)
    (hf : ∀ a, Counts (f a)) : Counts (m >>= f) := by
  intro n
  have hle := hm n
  rw [runFrom_bind]
  generalize m.runFrom n = outcome at hle ⊢
  obtain ⟨r, k⟩ := outcome
  cases r with
  | error e => exact hle
  | ok a => exact Nat.le_trans hle (hf a k)

end Lowering

namespace LoweringContext

open Lowering

variable (c : LoweringContext)

/-- Scans of files and of tables by their metadata take one number, all other ones none. -/
lemma counts_scan (kind : ReadKind) : Counts (c.scan kind) := by
  cases kind with
  | unset | extensionTable => exact counts_throw _
  | namedTable names => exact counts_lift _
  | virtualTable values expressions => exact counts_lift _
  | localFiles items =>
    have hrest : Counts (do
        let paths ← lift (items.mapM FileItem.parquetPath)
        let scan := Relation.tableFunction "parquet_scan" [.list paths]
          [("binary_as_string", .boolean false)] c.lockMode
        return .aliased (← scanName "parquet") scan : Lowering Relation) :=
      (counts_lift _).bind fun paths => (counts_scanName _).bind fun name => counts_pure _
    rw [scan, scanFiles]
    split_ifs
    · exact (counts_throw _).bind fun _ => hrest
    · exact hrest
  | icebergTable file =>
    rw [scan, scanMetadata]
    refine (counts_lift _).bind fun f => ?_
    have hrest : Counts (do
        let snapshot ← lift (f.snapshot.toList.mapM Snapshot.parameter)
        let scan := Relation.tableFunction "iceberg_scan" (.varchar f.uri :: snapshot) [] c.lockMode
        return .aliased (← scanName "iceberg") scan : Lowering Relation) :=
      (counts_lift _).bind fun snapshot => (counts_scanName _).bind fun name => counts_pure _
    split_ifs
    · exact (counts_throw _).bind fun _ => hrest
    · exact hrest

lemma counts_lowerInput {field : String} {input : Option Rel} {names : Option (List String)}
    (ih : ∀ rel, input = some rel → Counts (c.lowerRel rel names)) :
    Counts (c.lowerInput field input names) := by
  cases input with
  | none => exact counts_throw _
  | some rel =>
    rw [lowerInput]
    exact ih rel rfl

/-- Lowering a relation never goes back to an earlier number, being a chain of parts that do not. -/
lemma counts_lowerRel (rel : Rel) (names : Option (List String)) :
    Counts (c.lowerRel rel names) := by
  match rel with
  | .unset | .other kind => exact counts_throw _
  | .read read =>
    rw [lowerRel, lowerRead]
    exact (c.counts_scan read.kind).bind fun _ => (counts_lift _).bind fun _ => counts_lift _
  | .filter input condition =>
    rw [lowerRel]
    exact (c.counts_lowerInput fun rel _ => counts_lowerRel rel none).bind fun _ =>
      (counts_lift _).bind fun _ => counts_pure _
  | .fetch input offset count =>
    rw [lowerRel]
    exact (counts_lift _).bind fun _ =>
      (c.counts_lowerInput fun rel _ => counts_lowerRel rel names).bind fun _ => counts_pure _
  | .aggregate input groupings measures =>
    rw [lowerRel]
    exact (counts_lift _).bind fun _ => (counts_lift _).bind fun _ =>
      (c.counts_lowerInput fun rel _ => counts_lowerRel rel none).bind fun _ => counts_pure _
  | .sort input sorts =>
    rw [lowerRel]
    exact (counts_lift _).bind fun _ =>
      (c.counts_lowerInput fun rel _ => counts_lowerRel rel names).bind fun _ => counts_pure _
  | .join left right condition type =>
    rw [lowerRel]
    exact (counts_lift _).bind fun _ => (counts_lift _).bind fun _ =>
      (c.counts_lowerInput fun rel _ => counts_lowerRel rel none).bind fun _ =>
      (c.counts_lowerInput fun rel _ => counts_lowerRel rel none).bind fun _ => counts_pure _
  | .cross left right =>
    rw [lowerRel]
    exact (c.counts_lowerInput fun rel _ => counts_lowerRel rel none).bind fun _ =>
      (c.counts_lowerInput fun rel _ => counts_lowerRel rel none).bind fun _ => counts_pure _
  | .project input expressions =>
    rw [lowerRel]
    exact (counts_lift _).bind fun _ =>
      (c.counts_lowerInput fun rel _ => counts_lowerRel rel none).bind fun _ => counts_pure _
  | .set [left, right] op =>
    rw [lowerRel]
    exact (counts_lift _).bind fun _ => (counts_lowerRel left none).bind fun _ =>
      (counts_lowerRel right names).bind fun _ => counts_pure _
  | .set [] op | .set [_] op | .set (_ :: _ :: _ :: _) op =>
    rw [lowerRel]
    exact (counts_lift _).bind fun _ => counts_throw _
  | .write target op input =>
    rw [lowerRel]
    exact (counts_lift _).bind fun _ =>
      (c.counts_lowerInput fun rel _ => counts_lowerRel rel none).bind fun _ =>
      (counts_lift _).bind fun _ => counts_pure _
termination_by rel

end LoweringContext

/-! ### Numbers that are found -/

namespace LoweringContext

open Lowering

variable {c : LoweringContext} {names : Option (List String)} {n k : Nat} {r : Relation}

/-- A scan that takes a number carries it in its name. -/
lemma numbered_scan {kind : ReadKind} (h : (c.scan kind).runFrom n = (.ok r, k)) :
    Numbered r.scans n k := by
  cases kind with
  | unset | extensionTable => cases h
  | namedTable parts =>
    obtain ⟨hr, rfl⟩ := Prod.mk.inj h
    obtain ⟨info, rfl | rfl⟩ := exists_of_scanTable hr
    · exact .nil n
    · exact .nil n
  | virtualTable values expressions =>
    obtain ⟨hr, rfl⟩ := Prod.mk.inj h
    obtain ⟨rows, rfl⟩ := exists_inline_of_scanInline hr
    exact .nil n
  | localFiles items =>
    obtain ⟨-, paths, -, rfl, rfl⟩ := scanFiles_eq_ok.mp h
    exact .single (scanNumber?_eq_some_iff.mpr ⟨"parquet", rfl, rfl⟩)
  | icebergTable file =>
    obtain ⟨f, snapshot, -, -, -, rfl, rfl⟩ := scanMetadata_eq_ok.mp h
    exact .single (scanNumber?_eq_some_iff.mpr ⟨"iceberg", rfl, rfl⟩)

/-- The filter and the choice of columns of a read leave its scan where it is. -/
lemma numbered_lowerRead {read : Read} (h : (c.lowerRead read).runFrom n = (.ok r, k)) :
    Numbered r.scans n k := by
  obtain ⟨scan, source, hscan, hf, hk⟩ := lowerRead_eq_ok.mp h
  have hsource : source.scans = scan.scans := by
    rcases filtered_eq_ok.mp hf with ⟨-, rfl⟩ | ⟨condition, e, -, -, rfl⟩
    · rfl
    · rw [Relation.scans]
  have hr : r.scans = source.scans := by
    rcases keepColumns_eq_ok.mp hk with ⟨-, rfl⟩ | ⟨-, columns, -, rfl⟩
    · rfl
    · rw [Relation.scans]
  rw [hr, hsource]
  exact numbered_scan hscan

lemma Lowers.scans_aliased {rel : Rel} (h : Lowers c rel names n r k) (name : String) :
    (Relation.aliased name r).scans = r.scans :=
  Relation.scans_aliased name (operator_ne_tableFunction_of_lowerRel h.lowerRel_eq_ok)

/-- A delete that is lowered has a table without scans as its input. -/
lemma scans_writeEffect {op : Int32} {source : Relation} {effect : WriteEffect}
    (h : writeEffect op source = .ok effect) : effect.scans = source.scans := by
  unfold writeEffect at h
  split_ifs at h
  · cases h
    rw [WriteEffect.scans]
  · cases h
    rw [WriteEffect.scans]
  · split at h
    · cases h
      rfl
    · cases h

/-- The scans of a lowered relation are numbered on from the number at which the lowering started,
and the next scan gets the number after the last one. -/
lemma Lowers.numbered {rel : Rel} (h : Lowers c rel names n r k) : Numbered r.scans n k := by
  induction h with
  | read h => exact numbered_lowerRead h
  | filter _ _ ih | fetch _ _ ih | aggregate _ _ _ ih | sort _ _ ih | project _ _ ih =>
    rw [Relation.scans]
    exact ih
  | join _ _ hleft hright ih ih' =>
    rw [Relation.scans, hleft.scans_aliased, hright.scans_aliased]
    exact ih.append ih'
  | cross hleft hright ih ih' =>
    rw [Relation.scans, hleft.scans_aliased, hright.scans_aliased]
    exact ih.append ih'
  | set _ _ _ ih ih' =>
    rw [Relation.scans]
    exact ih.append ih'
  | write _ _ heffect ih =>
    rw [Relation.scans, scans_writeEffect heffect]
    exact ih

end LoweringContext

/-! ### Roots and plans -/

/-- The projection that names the output columns is above all scans. -/
lemma Engine.Relation.scans_withNames (r : Relation) (names : List String) :
    (r.withNames names).scans = r.scans := by
  cases r with
  | write target effect => cases effect <;> rfl
  | _ => rfl

namespace LoweringContext

open Lowering

variable {c : LoweringContext} {n k : Nat} {r : Relation}

/-- The scans below a root are numbered in order. The projection that is put on top has none. -/
lemma numbered_lowerRoot {root : Root} (h : (c.lowerRoot root).runFrom n = (.ok r, k)) :
    Numbered r.scans n k := by
  rw [lowerRoot, runFrom_bind_eq_ok] at h
  obtain ⟨child, j, hchild, h⟩ := h
  obtain ⟨names, -, h⟩ := runFrom_lift_bind_eq_ok.mp h
  cases h
  rw [Relation.scans_withNames]
  obtain ⟨rel, -, hchild⟩ := lowerInput_eq_ok.mp hchild
  exact (lowers_of_lowerRel rel _ hchild).numbered

lemma numbered_lowerPlan {p : Plan} (h : (c.lowerPlan p).runFrom n = (.ok r, k)) :
    Numbered r.scans n k := by
  unfold lowerPlan at h
  split at h
  · cases h
  · rename_i first rest hrelations
    cases first with
    | unset => cases h
    | rel rel => exact (lowers_of_lowerRel rel none h).numbered
    | root root => exact numbered_lowerRoot h

/-- Lowering a plan never goes back to an earlier number. -/
lemma counts_lowerPlan (c : LoweringContext) (p : Plan) : Counts (c.lowerPlan p) := by
  unfold lowerPlan
  split
  · exact counts_throw _
  · rename_i first rest hrelations
    cases first with
    | unset => exact counts_throw _
    | rel rel => exact c.counts_lowerRel rel none
    | root root =>
      exact (c.counts_lowerInput fun rel _ => c.counts_lowerRel rel _).bind fun _ =>
        (counts_lift _).bind fun _ => counts_pure _

end LoweringContext

end PlanImport
