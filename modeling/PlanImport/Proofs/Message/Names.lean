import Mathlib.Data.List.Nodup
import PlanImport.Message.Reading

/-!
# Names of the schema

The names that are looked for among the keys of a JSON object all differ, so a key is that of one
field or of one member of a oneof or of neither.
-/

namespace PlanImport.Schema

variable {t : MessageType} {entries : List Entry} {members : List Member} {entry entry' : Entry}
  {key : String} {i j : Nat} {type : FieldType} {m : Member}

def Entry.jsonNames : Entry → List String
  | .field f => [jsonName f.name]
  | .oneof members => members.map fun m => jsonName m.name

/-- The names of a message in JSON: those of its fields and of the members of its oneofs. -/
def MessageType.jsonNames (t : MessageType) : List String := t.entries.flatMap Entry.jsonNames

lemma MessageType.nodup_jsonNames (t : MessageType) : t.jsonNames.Nodup := by
  cases t <;> decide +kernel

lemma MessageType.mem_jsonNames (hentry : entry ∈ t.entries) (hkey : key ∈ entry.jsonNames) :
    key ∈ t.jsonNames :=
  List.mem_flatMap.mpr ⟨entry, hentry, hkey⟩

/-- A name belongs to one entry. -/
lemma MessageType.eq_of_mem_jsonNames (key : String) (hi : t.entries[i]? = some entry)
    (hj : t.entries[j]? = some entry') (hkey : key ∈ entry.jsonNames)
    (hkey' : key ∈ entry'.jsonNames) : i = j := by
  have hdisjoint := List.pairwise_iff_getElem.mp (List.nodup_flatMap.mp t.nodup_jsonNames).2
  obtain ⟨hilt, rfl⟩ := List.getElem?_eq_some_iff.mp hi
  obtain ⟨hjlt, rfl⟩ := List.getElem?_eq_some_iff.mp hj
  rcases Nat.lt_trichotomy i j with h | h | h
  · exact absurd hkey' (hdisjoint i j hilt hjlt h hkey)
  · exact h
  · exact absurd hkey (hdisjoint j i hjlt hilt h hkey')

/-- A name belongs to one entry of a message only. -/
lemma MessageType.entry_eq_of_mem_jsonNames (hentry : entry ∈ t.entries)
    (hentry' : entry' ∈ t.entries) (hkey : key ∈ entry.jsonNames) (hkey' : key ∈ entry'.jsonNames) :
    entry = entry' := by
  obtain ⟨i, hi⟩ := List.mem_iff_getElem?.mp hentry
  obtain ⟨j, hj⟩ := List.mem_iff_getElem?.mp hentry'
  rw [eq_of_mem_jsonNames key hi hj hkey hkey', hj] at hi
  cases hi
  rfl

/-! ### Fields -/

/-- A field that is found has the name and is at the place that is given. -/
lemma exists_of_field?_eq_some (h : field? entries key = some (i, type)) :
    ∃ f, entries[i]? = some (.field f) ∧ jsonName f.name = key ∧ f.type = type := by
  obtain ⟨⟨entry, k⟩, hmem, h⟩ := List.exists_of_findSome?_eq_some h
  cases entry with
  | field f =>
    dsimp only at h
    split_ifs at h with hname
    cases h
    exact ⟨f, List.mem_zipIdx_iff_getElem?.mp hmem, hname, rfl⟩
  | oneof members => cases h

/-- The search meets every field, but no oneof. -/
lemma field?_eq_none_iff : field? entries key = none ↔
    ∀ f, .field f ∈ entries → jsonName f.name ≠ key := by
  rw [field?, List.findSome?_eq_none_iff]
  constructor
  · intro h f hf hname
    obtain ⟨i, hi⟩ := List.mem_iff_getElem?.mp hf
    have := h (.field f, i) (List.mem_zipIdx_iff_getElem?.mpr hi)
    simp [hname] at this
  · rintro h ⟨entry, i⟩ hmem
    cases entry with
    | field f => simp [h f (List.mem_iff_getElem?.mpr ⟨i, List.mem_zipIdx_iff_getElem?.mp hmem⟩)]
    | oneof members => rfl

lemma lt_of_field?_eq_some (h : field? entries key = some (i, type)) : i < entries.length := by
  obtain ⟨f, hf, -⟩ := exists_of_field?_eq_some h
  exact (List.getElem?_eq_some_iff.mp hf).1

/-- As names differ, the first field of a name is the only one. -/
lemma MessageType.field?_eq_some_iff : field? t.entries key = some (i, type) ↔
    ∃ f, t.entries[i]? = some (.field f) ∧ jsonName f.name = key ∧ f.type = type := by
  refine ⟨exists_of_field?_eq_some, ?_⟩
  rintro ⟨f, hf, rfl, rfl⟩
  cases h : field? t.entries (jsonName f.name) with
  | none => exact absurd rfl (field?_eq_none_iff.mp h f (List.mem_iff_getElem?.mpr ⟨i, hf⟩))
  | some p =>
    obtain ⟨f', hf', hname, htype⟩ := exists_of_field?_eq_some h
    obtain rfl : i = p.1 := eq_of_mem_jsonNames (jsonName f.name) hf hf'
      (by simp [Entry.jsonNames]) (by simp [Entry.jsonNames, hname])
    rw [hf] at hf'
    cases hf'
    rw [htype]

/-! ### Members of oneofs -/

/-- Where keys differ, an item is found by its key. -/
lemma find?_eq_some_iff_of_nodup_map {α κ : Type} [DecidableEq κ] {f : α → κ} {l : List α}
    {k : κ} {a : α} (h : (l.map f).Nodup) : l.find? (f · = k) = some a ↔ a ∈ l ∧ f a = k := by
  constructor
  · intro hfind
    exact ⟨List.mem_of_find?_eq_some hfind, by simpa using List.find?_some hfind⟩
  · rintro ⟨ha, rfl⟩
    cases hfind : l.find? (f · = f a) with
    | none => simpa using List.find?_eq_none.mp hfind a ha
    | some b =>
      have hkey : f b = f a := by simpa using List.find?_some hfind
      rw [List.inj_on_of_nodup_map h (List.mem_of_find?_eq_some hfind) ha hkey]

lemma MessageType.member?_eq_some_iff (hmembers : .oneof members ∈ t.entries) :
    member? members key = some m ↔ m ∈ members ∧ jsonName m.name = key :=
  find?_eq_some_iff_of_nodup_map ((List.nodup_flatMap.mp t.nodup_jsonNames).1 _ hmembers)

/-- A member of a oneof is not taken for a field. -/
lemma MessageType.field?_eq_none_of_member (hmembers : .oneof members ∈ t.entries)
    (hm : m ∈ members) : field? t.entries (jsonName m.name) = none := by
  rw [field?_eq_none_iff]
  intro f hf hname
  cases entry_eq_of_mem_jsonNames hf hmembers (List.mem_singleton.mpr hname.symm)
    (List.mem_map_of_mem hm)

lemma MessageType.mem_jsonNames_of_field? (h : field? t.entries key = some (i, type)) :
    key ∈ t.jsonNames := by
  obtain ⟨f, hf, rfl, -⟩ := exists_of_field?_eq_some h
  exact mem_jsonNames (List.mem_iff_getElem?.mpr ⟨i, hf⟩) (List.mem_singleton.mpr rfl)

/-! ### Types -/

def MemberType.toFieldType : MemberType → FieldType
  | .scalar type => .scalar type
  | .message t => .message t

/-- The type that a value under a key is read as for an entry. -/
def Entry.typeAt? (key : String) : Entry → Option FieldType
  | .field f => if jsonName f.name = key then some f.type else none
  | .oneof members => (member? members key).map fun m => m.type.toFieldType

/-- The type that a value under a key is read as in a message. -/
def MessageType.typeAt? (t : MessageType) (key : String) : Option FieldType :=
  t.entries.findSome? (Entry.typeAt? key)

/-- An entry has a type only under its own names. -/
lemma Entry.mem_jsonNames_of_typeAt? (h : entry.typeAt? key = some type) :
    key ∈ entry.jsonNames := by
  cases entry with
  | field f =>
    rw [typeAt?] at h
    split_ifs at h with hname
    exact List.mem_singleton.mpr hname.symm
  | oneof members =>
    obtain ⟨m, hm, -⟩ := Option.map_eq_some_iff.mp h
    have hname : jsonName m.name = key := by simpa using List.find?_some hm
    exact List.mem_map.mpr ⟨m, List.mem_of_find?_eq_some hm, hname⟩

/-- The type under a name is that of the entry with this name, wherever it stands. -/
lemma MessageType.typeAt?_of_mem (hentry : entry ∈ t.entries)
    (h : entry.typeAt? key = some type) : t.typeAt? key = some type := by
  cases hkey : t.typeAt? key with
  | none => rw [← h, List.findSome?_eq_none_iff.mp hkey entry hentry]
  | some type' =>
    obtain ⟨entry', hentry', h'⟩ := List.exists_of_findSome?_eq_some hkey
    rw [← h', ← h, entry_eq_of_mem_jsonNames hentry hentry' (Entry.mem_jsonNames_of_typeAt? h)
      (Entry.mem_jsonNames_of_typeAt? h')]

lemma MessageType.typeAt?_of_field? (h : field? t.entries key = some (i, type)) :
    t.typeAt? key = some type := by
  obtain ⟨f, hf, rfl, rfl⟩ := exists_of_field?_eq_some h
  exact typeAt?_of_mem (List.mem_iff_getElem?.mpr ⟨i, hf⟩) (if_pos rfl)

lemma MessageType.typeAt?_member (hmembers : .oneof members ∈ t.entries) (hm : m ∈ members) :
    t.typeAt? (jsonName m.name) = some m.type.toFieldType :=
  typeAt?_of_mem hmembers
    (by rw [Entry.typeAt?, (member?_eq_some_iff hmembers).mpr ⟨hm, rfl⟩, Option.map_some])

end PlanImport.Schema
