import PlanImport.Proofs.Catalog
import PlanImport.Proofs.Keyed

/-!
# Catalogs that are filled object by object

What is found under a schema and a name is the latest object that was added under their qualified
name. So a catalog is a map from pairs of a schema and a name exactly as long as no two pairs share
a qualified name with what is added: as long as there is no point in the names.
-/

namespace PlanImport.Engine

/-! ### Additions -/

inductive Addition
  | table (info : TableInfo)
  | view (info : TableInfo)

namespace Addition

def info : Addition → TableInfo
  | table info => info
  | view info => info

def table? : Addition → Option TableInfo
  | table info => some info
  | view _ => none

def view? : Addition → Option TableInfo
  | table _ => none
  | view info => some info

end Addition

/-- The object, or else the error that it is missing. -/
def foundOr (missing : NotFound) : Option TableInfo → Except NotFound TableInfo
  | some info => .ok info
  | none => .error missing

/-- The latest of the objects that have the given schema and name. -/
def latest? (schema name : String) (objects : List TableInfo) : Option TableInfo :=
  objects.reverse.find? fun t => t.schema = schema ∧ t.name = name

namespace Catalog

def add (c : Catalog) : Addition → Catalog
  | .table info => c.insertTable info
  | .view info => c.insertView info

/-- The catalog to which objects have been added in their order. -/
def ofAdditions (additions : List Addition) : Catalog := additions.foldl add empty

/-- Objects are found as in a map whose keys are the pairs of a schema and a name. -/
structure KeyedByPair (additions : List Addition) : Prop where
  /-- The table of a pair is the latest one that was added under the pair. -/
  findTable_eq : ∀ schema name, (ofAdditions additions).findTable schema name =
    foundOr (.table schema name) (latest? schema name (additions.filterMap Addition.table?))
  /-- The view of a pair is the latest one that was added under the pair. -/
  findView_eq : ∀ schema name, (ofAdditions additions).findView schema name =
    foundOr (.view schema name) (latest? schema name (additions.filterMap Addition.view?))
  /-- An addition changes nothing for other pairs. -/
  find_add : ∀ before a after, additions = before ++ a :: after → ∀ schema name,
    (schema, name) ≠ (a.info.schema, a.info.name) →
      ((ofAdditions before).add a).findTable schema name =
        (ofAdditions before).findTable schema name ∧
      ((ofAdditions before).add a).findView schema name =
        (ofAdditions before).findView schema name
  /-- There are as many tables as pairs under which tables were added. -/
  size_eq : (ofAdditions additions).tables.size =
    ((additions.filterMap Addition.table?).map fun t => (t.schema, t.name)).toFinset.card

/-! ### The latest object under a qualified name -/

/-- The objects with the qualified names under which they are kept. -/
def keyed (objects : List TableInfo) : List (String × TableInfo) := objects.map fun t => (t.key, t)

/-- Tables and views are added side by side and do not meet. -/
lemma foldl_add (c : Catalog) (additions : List Addition) :
    additions.foldl add c =
      ⟨c.tables.insertAll (keyed (additions.filterMap Addition.table?)),
        c.views.insertAll (keyed (additions.filterMap Addition.view?))⟩ := by
  induction additions generalizing c with
  | nil => rfl
  | cons a additions ih =>
    rw [List.foldl_cons, ih]
    cases a <;> rfl

lemma ofAdditions_eq (additions : List Addition) :
    ofAdditions additions =
      ⟨Keyed.empty.insertAll (keyed (additions.filterMap Addition.table?)),
        Keyed.empty.insertAll (keyed (additions.filterMap Addition.view?))⟩ :=
  foldl_add empty additions

/-- Of several objects of one qualified name the last one is found. -/
lemma lookup_reverse_keyed (objects : List TableInfo) (key : String) :
    (keyed objects).reverse.lookup key = objects.reverse.find? fun t => t.key = key := by
  rw [keyed, ← List.map_reverse]
  induction objects.reverse with
  | nil => rfl
  | cons t objects ih =>
    rw [List.map_cons, List.lookup_cons, List.find?_cons, ih]
    by_cases h : t.key = key
    · simp [h]
    · simp [h, beq_eq_false_iff_ne.mpr (Ne.symm h)]

/-- The latest of the objects that have the given qualified name. -/
lemma get?_insertAll_keyed (objects : List TableInfo) (key : String) :
    ((Keyed.empty.insertAll (keyed objects)).get? key) =
      objects.reverse.find? fun t => t.key = key := by
  rw [Keyed.get?_insertAll, lookup_reverse_keyed, Keyed.get?_empty, Option.or_none]

lemma findTable_ofAdditions (additions : List Addition) (schema name : String) :
    (ofAdditions additions).findTable schema name = foundOr (.table schema name)
      ((additions.filterMap Addition.table?).reverse.find? fun t =>
        t.key = qualifiedName schema name) := by
  rw [ofAdditions_eq, findTable, get?_insertAll_keyed]
  rfl

lemma findView_ofAdditions (additions : List Addition) (schema name : String) :
    (ofAdditions additions).findView schema name = foundOr (.view schema name)
      ((additions.filterMap Addition.view?).reverse.find? fun t =>
        t.key = qualifiedName schema name) := by
  rw [ofAdditions_eq, findView, get?_insertAll_keyed]
  rfl

end Catalog

/-! ### Names without points -/

/-- There is no point in the schema or the name. -/
def TableInfo.PointFree (t : TableInfo) : Prop := '.' ∉ t.schema.toList ∧ '.' ∉ t.name.toList

/-- Where there is no other point, the one between schema and name tells where the schema ends. -/
lemma TableInfo.PointFree.key_eq_iff {t : TableInfo} (h : t.PointFree) {schema name : String} :
    t.key = qualifiedName schema name ↔ t.schema = schema ∧ t.name = name := by
  constructor
  · intro hkey
    obtain ⟨rfl, rfl⟩ := forall_qualifiedName_eq_iff.mpr h schema name hkey.symm
    exact ⟨rfl, rfl⟩
  · rintro ⟨rfl, rfl⟩
    rfl

/-- Among objects without points in their names the pair decides as the qualified name does. -/
lemma find?_key_eq_latest? {objects : List TableInfo} (h : ∀ t ∈ objects, t.PointFree)
    (schema name : String) :
    (objects.reverse.find? fun t => t.key = qualifiedName schema name) =
      latest? schema name objects := by
  rw [latest?, ← List.head?_filter, ← List.head?_filter]
  congr 1
  apply List.filter_congr
  intro t ht
  simp only [(h t (List.mem_reverse.mp ht)).key_eq_iff]

lemma foundOr_inj {missing : NotFound} {o o' : Option TableInfo} :
    foundOr missing o = foundOr missing o' ↔ o = o' := by
  cases o <;> cases o' <;> simp [foundOr]

/-- If objects are found under their qualified names as in a map from pairs, there is no point in
the names of any: another pair with its qualified name would find it too. -/
lemma pointFree_of_find?_key_eq_latest? {objects : List TableInfo}
    (h : ∀ schema name, (objects.reverse.find? fun t => t.key = qualifiedName schema name) =
      latest? schema name objects)
    {t : TableInfo} (ht : t ∈ objects) : t.PointFree := by
  obtain ⟨u, hu⟩ : ∃ u, (objects.reverse.find? fun v => v.key = t.key) = some u := by
    rw [← Option.isSome_iff_exists, List.find?_isSome]
    exact ⟨t, List.mem_reverse.mpr ht, by simp⟩
  have hfound : ∀ schema name, qualifiedName schema name = t.key →
      u.schema = schema ∧ u.name = name := by
    intro schema name hq
    have hlatest := h schema name
    rw [hq, hu] at hlatest
    simpa using List.find?_some hlatest.symm
  obtain ⟨hschema, hname⟩ := hfound t.schema t.name rfl
  refine forall_qualifiedName_eq_iff.mp fun schema name hq => ?_
  obtain ⟨hschema', hname'⟩ := hfound schema name hq
  exact ⟨hschema'.symm.trans hschema, hname'.symm.trans hname⟩

/-! ### Maps from pairs -/

namespace Addition

variable {additions : List Addition} {info : TableInfo}

lemma mem_filterMap_table?_iff :
    info ∈ additions.filterMap table? ↔ Addition.table info ∈ additions := by
  rw [List.mem_filterMap]
  constructor
  · rintro ⟨a | a, ha, h⟩ <;> cases h
    exact ha
  · intro h
    exact ⟨_, h, rfl⟩

lemma mem_filterMap_view?_iff :
    info ∈ additions.filterMap view? ↔ Addition.view info ∈ additions := by
  rw [List.mem_filterMap]
  constructor
  · rintro ⟨a | a, ha, h⟩ <;> cases h
    exact ha
  · intro h
    exact ⟨_, h, rfl⟩

end Addition

namespace Catalog

variable {additions : List Addition}

lemma findTable_insertTable_of_ne (c : Catalog) {info : TableInfo} {schema name : String}
    (h : qualifiedName schema name ≠ info.key) :
    (c.insertTable info).findTable schema name = c.findTable schema name := by
  rw [findTable, insertTable, Keyed.get?_insert, if_neg h, findTable]

lemma findView_insertView_of_ne (c : Catalog) {info : TableInfo} {schema name : String}
    (h : qualifiedName schema name ≠ info.key) :
    (c.insertView info).findView schema name = c.findView schema name := by
  rw [findView, insertView, Keyed.get?_insert, if_neg h, findView]

/-- An object without points in its names changes what is found only for its own pair. -/
lemma find_add_of_pointFree (c : Catalog) {a : Addition} (h : a.info.PointFree)
    {schema name : String} (hne : (schema, name) ≠ (a.info.schema, a.info.name)) :
    (c.add a).findTable schema name = c.findTable schema name ∧
      (c.add a).findView schema name = c.findView schema name := by
  have hkey : qualifiedName schema name ≠ a.info.key := by
    intro hkey
    obtain ⟨hschema, hname⟩ := h.key_eq_iff.mp hkey.symm
    exact hne (by rw [hschema, hname])
  cases a with
  | table info => exact ⟨c.findTable_insertTable_of_ne hkey, rfl⟩
  | view info => exact ⟨rfl, c.findView_insertView_of_ne hkey⟩

lemma size_ofAdditions (additions : List Addition) :
    (ofAdditions additions).tables.size =
      ((additions.filterMap Addition.table?).map TableInfo.key).toFinset.card := by
  rw [ofAdditions_eq, Keyed.size_insertAll, keyed, List.map_map]
  rfl

/-- Names without points have as many qualified names as there are pairs. -/
lemma card_keys_of_pointFree {objects : List TableInfo} (h : ∀ t ∈ objects, t.PointFree) :
    (objects.map TableInfo.key).toFinset.card =
      (objects.map fun t => (t.schema, t.name)).toFinset.card := by
  have himage : (objects.map TableInfo.key).toFinset =
      (objects.map fun t => (t.schema, t.name)).toFinset.image
        fun p => qualifiedName p.1 p.2 := by
    ext key
    simp [TableInfo.key]
  rw [himage, Finset.card_image_of_injOn]
  intro p hp p' _ hq
  obtain ⟨t, ht, rfl⟩ := List.mem_map.mp (List.mem_toFinset.mp hp)
  obtain ⟨hschema, hname⟩ := (h t ht).key_eq_iff.mp hq
  rw [hschema, hname]

/-- Whatever is added in whatever order, the catalog is a map from pairs of a schema and a name
exactly if there is no point in the names of the objects. -/
theorem keyedByPair_iff : KeyedByPair additions ↔ ∀ a ∈ additions, a.info.PointFree := by
  constructor
  · -- A point in a name leaves another pair under which the object is found as well.
    intro h a ha
    cases a with
    | table info =>
      refine pointFree_of_find?_key_eq_latest? (fun schema name => ?_)
        (Addition.mem_filterMap_table?_iff.mpr ha)
      rw [← @foundOr_inj (.table schema name), ← findTable_ofAdditions]
      exact h.findTable_eq schema name
    | view info =>
      refine pointFree_of_find?_key_eq_latest? (fun schema name => ?_)
        (Addition.mem_filterMap_view?_iff.mpr ha)
      rw [← @foundOr_inj (.view schema name), ← findView_ofAdditions]
      exact h.findView_eq schema name
  · intro h
    have htables : ∀ t ∈ additions.filterMap Addition.table?, t.PointFree := fun t ht =>
      h _ (Addition.mem_filterMap_table?_iff.mp ht)
    have hviews : ∀ t ∈ additions.filterMap Addition.view?, t.PointFree := fun t ht =>
      h _ (Addition.mem_filterMap_view?_iff.mp ht)
    constructor
    · intro schema name
      rw [findTable_ofAdditions, find?_key_eq_latest? htables]
    · intro schema name
      rw [findView_ofAdditions, find?_key_eq_latest? hviews]
    · rintro before a after rfl schema name hne
      exact find_add_of_pointFree _ (h a (by simp)) hne
    · rw [size_ofAdditions, card_keys_of_pointFree htables]

/-- Of two tables that share a qualified name, the latter is found under the names of the former. -/
theorem not_keyedByPair_of_shared_qualifiedName :
    ¬ ∀ additions : List Addition, KeyedByPair additions := by
  intro h
  let first : TableInfo := ⟨"a.b", "c", [⟨"x", .integer⟩]⟩
  let second : TableInfo := ⟨"a", "b.c", [⟨"y", .varchar⟩]⟩
  have hfound : (ofAdditions [.table first, .table second]).findTable "a.b" "c" = .ok second := rfl
  have hmap := (h [.table first, .table second]).findTable_eq "a.b" "c"
  rw [hfound] at hmap
  have hcolumns : "y" = "x" := congrArg
    (fun r => match r with
      | .ok t => (t.columns.head?.map Column.name).getD ""
      | .error _ => "") hmap
  exact absurd hcolumns (by decide)

end Catalog

end PlanImport.Engine
