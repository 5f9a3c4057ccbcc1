import PlanImport.Proofs.Naming.Root

/-!
# Names of the columns of a created table

A table that is created from a query takes the flat list of names as the names of its columns. The
query by itself picks the names of its columns out of the list. So the two agree only if there is
nothing to leave out.
-/

namespace PlanImport

open Engine Plan

/-- A root and a root that creates a table end alike: with the same refusal, or with the same names
on top of the one and beneath the other. -/
def SameColumns : Except Refusal Relation → Except Refusal Relation → Prop
  | .error e, .error e' => e = e'
  | .ok (.project _ _ labels), .ok (.write _ (.createTableAs (.project _ _ labels'))) =>
    labels = labels'
  | _, _ => False

/-- The names are picked for the same columns on both sides, so a refusal is the same one and only
the results are compared. -/
lemma sameColumns_map_iff {picked : Except Refusal (List String)} {names : List String}
    {r r' : Relation} {target : TargetName} (h : ∀ target effect, r ≠ .write target effect) :
    SameColumns (picked.map fun names => r.withNames names)
      (.ok (.write target (.createTableAs (r'.renamed names)))) ↔ picked = .ok names := by
  cases picked with
  | error e => simp [Except.map, SameColumns]
  | ok own =>
    rw [Except.map, Relation.withNames_of_ne_write h, Except.ok.injEq]
    rfl

namespace LoweringContext

variable {c : LoweringContext} {n k : Nat} {rel : Rel} {parts names : List String}

lemma exists_targetName (hparts : parts ≠ []) :
    ∃ target, (WriteTarget.namedTable parts).name = .ok target := by
  obtain ⟨last, hlast⟩ := Option.isSome_iff_exists.mp (List.getLast?_isSome.mpr hparts)
  rcases parts with _ | ⟨first, _ | ⟨second, rest⟩⟩
  · exact absurd rfl hparts
  · exact ⟨_, rfl⟩
  · simp only [WriteTarget.name, hlast]
    exact ⟨_, rfl⟩

/-- The root that creates a table puts the flat list beneath the write. -/
lemma runFrom_lowerRoot_createTableAs (rel : Rel) (names : List String) (n : Nat)
    (hparts : parts ≠ []) :
    ∃ target, (c.lowerRoot ⟨some (.write (.namedTable parts) 4 (some rel)), names⟩).runFrom n =
      match (c.lowerRel rel none).runFrom n with
      | (.ok r, k) => (.ok (.write target (.createTableAs (r.renamed names))), k)
      | (.error e, k) => (.error e, k) := by
  obtain ⟨target, htarget⟩ := exists_targetName hparts
  refine ⟨target, ?_⟩
  rw [runFrom_lowerRoot, lowerInput, lowerRel, htarget, Lowering.lift_ok_bind, lowerInput,
    Lowering.runFrom_bind]
  rcases (c.lowerRel rel none).runFrom n with ⟨r, k⟩
  cases r <;> rfl

/-- A created table has the columns of the plain query exactly if no names are left out of the list
for these and none is missing in it. -/
theorem createTableAs_sameColumns_iff (hrel : ∀ target op input, rel ≠ .write target op input)
    (hparts : parts ≠ []) :
    SameColumns ((c.lowerRoot ⟨some rel, names⟩).runFrom n).1
        ((c.lowerRoot ⟨some (.write (.namedTable parts) 4 (some rel)), names⟩).runFrom n).1 ↔
      ∀ r k source columns labels, (c.lowerRel rel none).runFrom n = (.ok r, k) →
        r.projection? = some (.project source columns labels) →
        columns.length = names.length ∧
          ∀ e ∈ columns.dropLast, (e.typeOver (source.columnTypes.getD [])).innerNames = 0 := by
  obtain ⟨target, hcreate⟩ := runFrom_lowerRoot_createTableAs (c := c) rel names n hparts
  rw [hcreate, runFrom_lowerRoot, lowerInput]
  rcases h : (c.lowerRel rel none).runFrom n with ⟨r | r, k⟩
  · -- What is refused without names is refused with them, and on both sides.
    have herror : (c.lowerRel rel (some names)).runFrom n = (.error r, k) := by
      rw [lowerRel_some, Lowering.runFrom_map, h]
      rfl
    rw [herror]
    simp [SameColumns]
  · have hnamed := runFrom_lowerRel_some names h
    have hwrite := ne_write_of_lowerRel hrel hnamed
    rw [hnamed]
    dsimp only
    cases hp : r.projection? with
    | none =>
      -- Without a projection the flat list is taken as it is, which is what the table gets too.
      have hnone : (r.nameFields names).projection? = none := by
        rw [Relation.projection?_nameFields, hp]
        rfl
      rw [Relation.columnNames_of_none hnone, Except.map, Relation.withNames_of_ne_write hwrite]
      refine iff_of_true rfl ?_
      rintro r' k' source columns labels hr hp'
      cases hr
      rw [hp] at hp'
      cases hp'
    | some p =>
      obtain ⟨source, columns, labels, rfl⟩ := Relation.exists_project_of_projection? hp
      have hsome : (r.nameFields names).projection? =
          some (.project source ((NameStream.ofList names).nameColumns columns) labels) := by
        rw [Relation.projection?_nameFields, hp]
        rfl
      rw [Relation.columnNames_of_some hsome, sameColumns_map_iff hwrite, pickNames_eq_self_iff,
        NameStream.forall_dropLast_nameColumns_iff, Expr.length_typesOver,
        NameStream.length_nameColumns]
      constructor
      · rintro hagree r' k' source' columns' labels' hr hp'
        cases hr
        rw [hp] at hp'
        cases hp'
        exact hagree
      · intro hall
        exact hall r k source columns labels rfl hp

/-- Names inside the type of the last column may be missing in the list. -/
theorem createTableAs_sameColumns_nested_last :
    SameColumns
      ((placesContext.lowerRoot ⟨some (placesProject [inputField 1, inputField 0]),
        ["n", "p"]⟩).runFrom 0).1
      ((placesContext.lowerRoot ⟨some (.write (.namedTable ["copy"]) 4
        (some (placesProject [inputField 1, inputField 0]))), ["n", "p"]⟩).runFrom 0).1 := by
  refine (createTableAs_sameColumns_iff (fun _ _ _ h => by cases h) (by simp)).mpr ?_
  intro r k source columns labels h hp
  have hlower : (placesContext.lowerRel (placesProject [inputField 1, inputField 0])
      none).runFrom 0 =
      (.ok (.project (.table places .acquire) [.column 2, .column 1] ["col_0", "col_1"]), 0) := rfl
  rw [hlower] at h
  cases h
  cases hp
  refine ⟨rfl, fun e he => ?_⟩
  cases List.mem_singleton.mp he
  rfl

/-- A created table also gets a column for each name inside a type, which the query does not. -/
theorem not_sameColumns_createTableAs :
    ¬ ∀ (c : LoweringContext) (rel : Rel) (parts names : List String),
      (∀ target op input, rel ≠ .write target op input) → parts ≠ [] →
      SameColumns ((c.lowerRoot ⟨some rel, names⟩).runFrom 0).1
        ((c.lowerRoot ⟨some (.write (.namedTable parts) 4 (some rel)), names⟩).runFrom 0).1 := by
  intro h
  have hsame := h placesContext (placesProject [inputField 0, inputField 1]) ["copy"]
    ["p", "lat", "lon", "n"] (fun _ _ _ h => by cases h) (by simp)
  have hlabels : ["p", "n"] = ["p", "lat", "lon", "n"] := hsame
  exact absurd hlabels (by decide)

end LoweringContext

end PlanImport
