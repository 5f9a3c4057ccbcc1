import PlanImport.Proofs.Json.Known
import PlanImport.Proofs.Json.Values

/-!
# Edits that change no message

Members of an object may be put in another order, and members that say nothing may be added, however
deep the object is in a text: the text is then read as the same message, or again not at all.
Messages are read in two ways, while the text is gone through or from values that are known, and
the edits change nothing for either of them.
-/

namespace PlanImport

open Schema

/-! ### Items -/

variable {ε : Type} {wanted : Option FieldType} {entries : List Entry} {vs vs' : List (Reading ε)}
  {slots : List Slot} {t : MessageType}

/-- The type that an item is read as in an array that is read as a value of the given type. -/
def Schema.itemType? (wanted : Option FieldType) (i : Nat) : Option FieldType :=
  match wanted with
  | some (.messages t) => some (.message t)
  | some (.message t) =>
    match t.entries[i]? with
    | some (.field f) => some f.type
    | _ => none
  | _ => none

namespace Reading

/-- Whether items agree one by one as those of an array that is read as a value of the given
type. -/
structure ItemsAgree (wanted : Option FieldType) (vs vs' : List (Reading ε)) : Prop where
  length : vs.length = vs'.length
  agree : ∀ (i : Nat) (v v' : Reading ε), vs[i]? = some v → vs'[i]? = some v' →
    v.Agree (itemType? wanted i) v'

/-- Items that agree one by one are read alike. -/
lemma mapM_eq_ok_iff_of_agree {α : Type} {f : Reading ε → Except ε α} {as : List α}
    (hlength : vs.length = vs'.length)
    (h : ∀ (i : Nat) (v v' : Reading ε), vs[i]? = some v → vs'[i]? = some v' →
      ∀ a, f v = .ok a ↔ f v' = .ok a) :
    vs.mapM f = .ok as ↔ vs'.mapM f = .ok as := by
  induction vs generalizing vs' as with
  | nil => rw [List.length_eq_zero_iff.mp hlength.symm]
  | cons v vs ih =>
    obtain ⟨v', vs', rfl⟩ := List.exists_cons_of_length_eq_add_one hlength.symm
    have hhead (a) := h 0 v v' rfl rfl a
    have htail (as) := @ih vs' as (Nat.succ.inj hlength) fun i => h (i + 1)
    simp only [List.mapM_cons, bind_eq_ok, hhead, htail]

/-- An array that is read as a message gives its items to the fields in their order. -/
lemma ofItems_eq_ok_iff_of_agree {e : ε} (hlength : vs.length = vs'.length)
    (h : ∀ (i : Nat) (f : Field) (v v' : Reading ε), entries[i]? = some (.field f) →
      vs[i]? = some v → vs'[i]? = some v' → v.Agree (some f.type) v') :
    ofItems (.error e) entries vs = .ok slots ↔ ofItems (.error e) entries vs' = .ok slots := by
  induction entries generalizing vs vs' slots with
  | nil =>
    cases vs with
    | nil => rw [List.length_eq_zero_iff.mp hlength.symm]
    | cons v vs =>
      obtain ⟨v', vs', rfl⟩ := List.exists_cons_of_length_eq_add_one hlength.symm
      rfl
  | cons entry entries ih =>
    cases vs with
    | nil => rw [List.length_eq_zero_iff.mp hlength.symm]
    | cons v vs =>
      obtain ⟨v', vs', rfl⟩ := List.exists_cons_of_length_eq_add_one hlength.symm
      have htail (slots) := @ih vs vs' slots (Nat.succ.inj hlength) fun i => h (i + 1)
      cases entry with
      | field f =>
        have hhead (slot) : v.field f.type = .ok slot ↔ v'.field f.type = .ok slot :=
          (h 0 f v v' rfl rfl rfl).field
        simp only [ofItems, bind_eq_ok, hhead, htail]
      | oneof members => simp only [ofItems, bind_eq_ok, htail]

namespace ItemsAgree

lemma message {e : ε} (h : ItemsAgree (some (.message t)) vs vs') :
    ofItems (.error e) t.entries vs = .ok slots ↔ ofItems (.error e) t.entries vs' = .ok slots := by
  refine ofItems_eq_ok_iff_of_agree h.length fun i f v v' hf hv hv' => ?_
  have hagree := h.agree i v v' hv hv'
  rwa [itemType?, hf] at hagree

lemma messages {ms : List Message} (h : ItemsAgree (some (.messages t)) vs vs') :
    vs.mapM (·.message t) = .ok ms ↔ vs'.mapM (·.message t) = .ok ms :=
  mapM_eq_ok_iff_of_agree h.length fun i v v' hv hv' => (h.agree i v v' hv hv').message t rfl

lemma strings {ss : List String} (h : ItemsAgree wanted vs vs') :
    vs.mapM (·.text) = .ok ss ↔ vs'.mapM (·.text) = .ok ss :=
  mapM_eq_ok_iff_of_agree h.length fun i v v' hv hv' => (h.agree i v v' hv hv').text

end ItemsAgree

end Reading

namespace Json

/-! ### Containers -/

lemma itemReadings_eq_map (js : List Json) : itemReadings js = js.map reading := by
  induction js with
  | nil => rfl
  | cons j js ih => rw [itemReadings, ih, List.map_cons]

/-- An array of items that agree is read alike, whatever is wanted in its place. -/
lemma agree_arrayReading {vs vs' : List (Reading String)} (h : Reading.ItemsAgree wanted vs vs') :
    (arrayReading vs).Agree wanted (arrayReading vs') where
  isNull := rfl
  scalar _ _ := Iff.rfl
  text _ := Iff.rfl
  message t ht m := by
    subst ht
    simp only [arrayReading]
    split_ifs
    · rfl
    · simp only [map_eq_ok, h.length, h.message]
  messages t ht ms := by
    subst ht
    exact h.messages
  strings _ ss := h.strings

lemma Raw.agree_arrayReading {depth : Nat} {vs vs' : List (Reading JsonFault)}
    (h : Reading.ItemsAgree wanted vs vs') :
    (arrayReading depth true vs).Agree wanted (arrayReading depth true vs') where
  isNull := rfl
  scalar _ _ := Iff.rfl
  text _ := Iff.rfl
  message t ht m := by
    subst ht
    simp only [arrayReading]
    split_ifs
    · rfl
    · simp only [bind_eq_ok, h.message]
  messages t ht ms := by
    subst ht
    simp only [arrayReading, bind_eq_ok, h.messages]
  strings _ ss := by simp only [arrayReading, bind_eq_ok, h.strings]

/-- An object whose members say the same is read alike, whatever is wanted in its place. -/
lemma agree_reading_ofMembers {members members' : List (String × Json)}
    (h : ∀ t, wanted = some (.message t) →
      t.SaySame (memberReadings members) (memberReadings members')) :
    (ofMembers members).reading.Agree wanted (ofMembers members').reading where
  isNull := rfl
  scalar _ _ := Iff.rfl
  text _ := Iff.rfl
  message t ht m := by
    rw [message_ofMembers_iff (h t ht).once, message_ofMembers_iff (h t ht).once',
      (h t ht).readByKeys_iff]
  messages _ _ _ := Iff.rfl
  strings _ _ := Iff.rfl

lemma Raw.agree_objectReading {depth : Nat} {rs rs' : List (MemberReading JsonFault)}
    (h : ∀ t, wanted = some (.message t) → t.SaySame rs rs') :
    (objectReading depth true rs).Agree wanted (objectReading depth true rs') where
  isNull := rfl
  scalar _ _ := Iff.rfl
  text _ := Iff.rfl
  message t ht m := by
    simp only [objectReading, bind_eq_ok, Reading.ofMembers_eq_ok_iff (h t ht).once,
      Reading.ofMembers_eq_ok_iff (h t ht).once', (h t ht).readByKeys_iff]
  messages _ _ _ := Iff.rfl
  strings _ _ := Iff.rfl

namespace Raw

/-! ### Values of a text -/

variable {depth : Nat} {v v' : Raw} {items items' : List Raw}
  {members members' : List (Option String × Raw)} {p p' : Option String × Raw}
  {jms jms' : List (String × Json)}

def memberReading (depth : Nat) (p : Option String × Raw) : MemberReading JsonFault where
  key := match p.1 with
    | some key => .ok key
    | none => .error .malformed
  value := p.2.reading depth
  skip := ensure p.2.isWhole
  later := match p.2.value? depth with
    | some j => .ok j.reading
    | none => .error .malformed

lemma memberReadings_eq_map (depth : Nat) (members : List (Option String × Raw)) :
    memberReadings depth members = members.map (memberReading depth) := by
  induction members with
  | nil => rfl
  | cons p members ih =>
    obtain ⟨key, v⟩ := p
    cases key <;> rw [memberReadings, ih, List.map_cons] <;> rfl

lemma itemReadings_eq_map (depth : Nat) (items : List Raw) :
    itemReadings depth items = items.map (reading depth) := by
  induction items with
  | nil => rfl
  | cons v items ih => rw [itemReadings, ih, List.map_cons]

@[simp] lemma memberReading_key_eq_ok_iff {key : String} :
    (memberReading depth p).key = .ok key ↔ p.1 = some key := by
  rcases p with ⟨_ | _, v⟩ <;> simp [memberReading]

@[simp] lemma memberReading_skip_eq_ok_iff :
    (memberReading depth p).skip = .ok () ↔ p.2.isWhole = true := by
  simp [memberReading, ensure]

@[simp] lemma memberReading_later_eq_ok_iff {r : Reading String} :
    (memberReading depth p).later = .ok r ↔ ∃ j, p.2.value? depth = some j ∧ j.reading = r := by
  cases h : p.2.value? depth <;> simp [memberReading, h]

/-- Whether two values of texts agree, read directly as well as once they are known. -/
structure Agree (wanted : Option FieldType) (depth : Nat) (v v' : Raw) : Prop where
  isWhole : v.isWhole = v'.isWhole
  reading : (v.reading depth).Agree wanted (v'.reading depth)
  known : (∃ j, v.value? depth = some j) ↔ ∃ j', v'.value? depth = some j'
  value : ∀ j j', v.value? depth = some j → v'.value? depth = some j' →
    j.reading.Agree wanted j'.reading

lemma Agree.refl (wanted : Option FieldType) (depth : Nat) (v : Raw) : v.Agree wanted depth v where
  isWhole := rfl
  reading := .refl _ _
  known := Iff.rfl
  value j j' hj hj' := by
    rw [hj, Option.some.injEq] at hj'
    rw [hj']
    exact .refl _ _

lemma Agree.symm (h : v.Agree wanted depth v') : v'.Agree wanted depth v where
  isWhole := h.isWhole.symm
  reading := h.reading.symm
  known := h.known.symm
  value j j' hj hj' := (h.value j' j hj' hj).symm

/-! ### Members of a text -/

/-- The type that a value under a key is read as in an object that is read as a value of the given
type. -/
def memberType? (wanted : Option FieldType) (key : Option String) : Option FieldType :=
  match wanted, key with
  | some (.message t), some key => t.typeAt? key
  | _, _ => none

/-- Whether a member may stand in an object that is read as a value of the given type without
saying anything: it has a value, and its key is not a name of the message, or it is that of a
member of a oneof and the value is `null`. -/
structure SaysNothing (wanted : Option FieldType) (depth : Nat) (p : Option String × Raw) : Prop where
  known : ∃ j : String × Json, p.1 = some j.1 ∧ p.2.value? depth = some j.2
  nothing : ∀ t, wanted = some (.message t) → (∀ key ∈ t.jsonNames, p.1 ≠ some key) ∨
    (∃ ms, .oneof ms ∈ t.entries ∧ ∃ m ∈ ms, p.1 = some (jsonName m.name)) ∧ p.2 = .null

def DistinctKeys (members : List (Option String × Raw)) : Prop :=
  (members.filterMap Prod.fst).Nodup

/-- Whether what members say is said by others too. -/
def Covers (wanted : Option FieldType) (depth : Nat) (members members' : List (Option String × Raw)) :
    Prop :=
  ∀ p ∈ members, SaysNothing wanted depth p ∨
    ∃ p' ∈ members', p.1 = p'.1 ∧ p.2.Agree (memberType? wanted p.1) depth p'.2

lemma DistinctKeys.namesOnce (h : DistinctKeys members) (t : MessageType) :
    t.NamesOnce (memberReadings depth members) := by
  rw [memberReadings_eq_map]
  refine List.pairwise_map.mpr ((List.pairwise_filterMap.mp h).imp ?_)
  intro p p' hne key _ hkey hkey'
  exact hne key (memberReading_key_eq_ok_iff.mp hkey) key (memberReading_key_eq_ok_iff.mp hkey') rfl

lemma DistinctKeys.namesOnce_values (h : DistinctKeys members)
    (hjms : memberValues? depth members = some jms) (t : MessageType) :
    t.NamesOnce (Json.memberReadings jms) := by
  rw [DistinctKeys, filterMap_fst_of_memberValues? hjms] at h
  rw [namesOnce_memberReadings]
  refine (List.pairwise_map.mp h).imp fun hne key _ hkey hkey' => hne (hkey.trans hkey'.symm)

/-- What may stand in an object says nothing of its message when it is read directly. -/
lemma SaysNothing.memberReading (h : SaysNothing (some (.message t)) depth p) :
    (memberReading depth p).SaysNothing t := by
  obtain ⟨j, hkey, hj⟩ := h.known
  rcases h.nothing t rfl with hunknown | ⟨⟨ms, hms, m, hm, hname⟩, hnull⟩
  · refine .unknown ⟨j.1, memberReading_key_eq_ok_iff.mpr hkey, fun _ => ?_⟩ fun key hmem hkey =>
      hunknown key hmem (memberReading_key_eq_ok_iff.mp hkey)
    split_ifs
    · exact ⟨_, memberReading_later_eq_ok_iff.mpr ⟨j.2, hj, rfl⟩⟩
    · exact memberReading_skip_eq_ok_iff.mpr (isWhole_of_value? hj)
  · refine .null ⟨ms, hms, m, hm, memberReading_key_eq_ok_iff.mpr hname⟩
      ⟨_, memberReading_later_eq_ok_iff.mpr ⟨.null, ?_, rfl⟩, rfl⟩
    rw [hnull]
    rfl

/-- Members that cover others do so when they are read directly. -/
lemma Covers.memberReadings (h : Covers (some (.message t)) depth members members') :
    t.Covers (memberReadings depth members) (memberReadings depth members') := by
  rw [memberReadings_eq_map, memberReadings_eq_map]
  refine List.forall_mem_map.mpr fun p hp => ?_
  rcases h p hp with hnothing | ⟨p', hp', hkey, hagree⟩
  · exact .inl hnothing.memberReading
  · refine .inr ⟨_, List.mem_map_of_mem hp', ?_⟩
    have hwanted {key : String} (h : p.1 = some key) :
        memberType? (some (.message t)) p.1 = t.typeAt? key := by rw [h]; rfl
    constructor
    · simp [hkey]
    · intro key i type h hfield
      rw [← MessageType.typeAt?_of_field? hfield, ← hwanted (memberReading_key_eq_ok_iff.mp h)]
      exact hagree.reading
    · simp [hagree.isWhole]
    · simpa using hagree.known
    · intro key v v' h hv hv'
      obtain ⟨j, hj, rfl⟩ := memberReading_later_eq_ok_iff.mp hv
      obtain ⟨j', hj', rfl⟩ := memberReading_later_eq_ok_iff.mp hv'
      rw [← hwanted (memberReading_key_eq_ok_iff.mp h)]
      exact hagree.value j j' hj hj'

/-- Members that cover others do so with the values that they are known by. -/
lemma Covers.values (h : Covers (some (.message t)) depth members members')
    (hjms : memberValues? depth members = some jms)
    (hjms' : memberValues? depth members' = some jms') :
    t.Covers (Json.memberReadings jms) (Json.memberReadings jms') := by
  rw [Json.memberReadings_eq_map, Json.memberReadings_eq_map]
  refine List.forall_mem_map.mpr fun j hj => ?_
  -- Each known member comes from one of the text, and so do those that cover it.
  obtain ⟨p, hp, hkey, hvalue⟩ := (mem_memberValues?_iff hjms).mp hj
  rcases h p hp with hnothing | ⟨p', hp', hkey', hagree⟩
  · left
    rcases hnothing.nothing t rfl with hunknown | ⟨⟨ms, hms, m, hm, hname⟩, hnull⟩
    · refine .unknown (readable_memberReading _ _) fun key hmem h => ?_
      cases h
      exact hunknown _ hmem hkey
    · rw [hkey, Option.some.injEq] at hname
      rw [hnull] at hvalue
      exact .null ⟨ms, hms, m, hm, congrArg _ hname⟩
        ⟨_, rfl, by rw [← Option.some.inj hvalue]; rfl⟩
  · obtain ⟨j', hj'⟩ := hagree.known.mp ⟨_, hvalue⟩
    have hmem : (j.1, j') ∈ jms' :=
      (mem_memberValues?_iff hjms').mpr ⟨p', hp', hkey' ▸ hkey, hj'⟩
    refine .inr ⟨_, List.mem_map_of_mem hmem, ?_⟩
    have hread := hagree.value _ _ hvalue hj'
    rw [hkey] at hread
    constructor
    · exact fun _ => Iff.rfl
    · intro key i type h hfield
      cases h
      rw [← MessageType.typeAt?_of_field? hfield]
      exact hread
    · exact Iff.rfl
    · exact ⟨fun _ => ⟨_, rfl⟩, fun _ => ⟨_, rfl⟩⟩
    · intro key v v' h hv hv'
      cases h
      cases hv
      cases hv'
      exact hread

/-- Objects whose members say the same agree. -/
lemma agree_object (hkeys : DistinctKeys members) (hkeys' : DistinctKeys members')
    (hcovers : Covers wanted depth members members')
    (hcovers' : Covers wanted depth members' members) :
    (object members true).Agree wanted (depth + 1) (object members' true) := by
  have hwhole {ms ms'} (h : Covers wanted depth ms ms')
      (hall : ∀ p ∈ ms', p.2.isWhole = true) : ∀ p ∈ ms, p.2.isWhole = true := by
    intro p hp
    rcases h p hp with hnothing | ⟨p', hp', -, hagree⟩
    · obtain ⟨j, -, hj⟩ := hnothing.known
      exact isWhole_of_value? hj
    · rw [hagree.isWhole, hall p' hp']
  have hknown {ms ms'} (h : Covers wanted depth ms ms')
      (hall : ∀ p ∈ ms', ∃ j : String × Json, p.1 = some j.1 ∧ p.2.value? depth = some j.2) :
      ∀ p ∈ ms, ∃ j : String × Json, p.1 = some j.1 ∧ p.2.value? depth = some j.2 := by
    intro p hp
    rcases h p hp with hnothing | ⟨p', hp', hkey, hagree⟩
    · exact hnothing.known
    · obtain ⟨j', hkey', hj'⟩ := hall p' hp'
      obtain ⟨j, hj⟩ := hagree.known.mpr ⟨_, hj'⟩
      exact ⟨(j'.1, j), hkey.trans hkey', hj⟩
  -- Members that say nothing are whole and known, all others have a counterpart.
  constructor
  · rw [isWhole, isWhole, Bool.true_and, Bool.true_and, Bool.eq_iff_iff, membersAreWhole_iff,
      membersAreWhole_iff]
    exact ⟨hwhole hcovers', hwhole hcovers⟩
  · refine agree_objectReading fun t ht => ?_
    subst ht
    exact ⟨hkeys.namesOnce t, hkeys'.namesOnce t, hcovers.memberReadings, hcovers'.memberReadings⟩
  · rw [exists_value?_object_iff, exists_value?_object_iff]
    exact ⟨hknown hcovers', hknown hcovers⟩
  · intro j j' hj hj'
    obtain ⟨-, -, jms, hjms, rfl⟩ := value?_object_eq_some_iff.mp hj
    obtain ⟨-, -, jms', hjms', rfl⟩ := value?_object_eq_some_iff.mp hj'
    refine agree_reading_ofMembers fun t ht => ?_
    subst ht
    exact ⟨hkeys.namesOnce_values hjms t, hkeys'.namesOnce_values hjms' t,
      hcovers.values hjms hjms', hcovers'.values hjms' hjms⟩

/-- Each item has a counterpart that it agrees with. -/
lemma exists_agree_of_mem (hlength : items.length = items'.length)
    (h : ∀ (i : Nat) (v v' : Raw), items[i]? = some v → items'[i]? = some v' →
      v.Agree (itemType? wanted i) depth v') (hv : v ∈ items) :
    ∃ v' ∈ items', ∃ i, v.Agree (itemType? wanted i) depth v' := by
  obtain ⟨i, hi, rfl⟩ := List.mem_iff_getElem.mp hv
  exact ⟨_, List.getElem_mem (hlength ▸ hi), i, h i _ _ (List.getElem?_eq_getElem hi)
    (List.getElem?_eq_getElem (hlength ▸ hi))⟩

/-- Arrays of the same length agree if their items do. -/
lemma agree_array (hlength : items.length = items'.length)
    (h : ∀ (i : Nat) (v v' : Raw), items[i]? = some v → items'[i]? = some v' →
      v.Agree (itemType? wanted i) depth v') :
    (array items true).Agree wanted (depth + 1) (array items' true) := by
  have h' (i : Nat) (v v' : Raw) (hv : items'[i]? = some v) (hv' : items[i]? = some v') :
      v.Agree (itemType? wanted i) depth v' := (h i v' v hv' hv).symm
  constructor
  · rw [isWhole, isWhole, Bool.true_and, Bool.true_and, Bool.eq_iff_iff, areWhole_iff, areWhole_iff]
    constructor
    · intro hall v' hv'
      obtain ⟨v, hv, i, hagree⟩ := exists_agree_of_mem hlength.symm h' hv'
      rw [hagree.isWhole, hall v hv]
    · intro hall v hv
      obtain ⟨v', hv', i, hagree⟩ := exists_agree_of_mem hlength h hv
      rw [hagree.isWhole, hall v' hv']
  · refine agree_arrayReading ⟨?_, fun i r r' hr hr' => ?_⟩
    · rw [itemReadings_eq_map, itemReadings_eq_map, List.length_map, List.length_map, hlength]
    · rw [itemReadings_eq_map, List.getElem?_map, Option.map_eq_some_iff] at hr hr'
      obtain ⟨v, hv, rfl⟩ := hr
      obtain ⟨v', hv', rfl⟩ := hr'
      exact (h i v v' hv hv').reading
  · -- An array is known as soon as all its items are, so it is known on both sides or on none.
    rw [exists_value?_array_iff, exists_value?_array_iff]
    constructor
    · intro hall v' hv'
      obtain ⟨v, hv, i, hagree⟩ := exists_agree_of_mem hlength.symm h' hv'
      exact hagree.known.mpr (hall v hv)
    · intro hall v hv
      obtain ⟨v', hv', i, hagree⟩ := exists_agree_of_mem hlength h hv
      exact hagree.known.mpr (hall v' hv')
  · intro j j' hj hj'
    obtain ⟨-, -, js, hjs, rfl⟩ := value?_array_eq_some_iff.mp hj
    obtain ⟨-, -, js', hjs', rfl⟩ := value?_array_eq_some_iff.mp hj'
    refine Json.agree_arrayReading ⟨?_, fun i r r' hr hr' => ?_⟩
    · rw [Json.itemReadings_eq_map, Json.itemReadings_eq_map, List.length_map, List.length_map,
        length_values? hjs, length_values? hjs', hlength]
    · rw [Json.itemReadings_eq_map, List.getElem?_map, Option.map_eq_some_iff] at hr hr'
      obtain ⟨k, hk, rfl⟩ := hr
      obtain ⟨k', hk', rfl⟩ := hr'
      obtain ⟨v, hv, hvalue⟩ := getElem?_values? hjs hk
      obtain ⟨v', hv', hvalue'⟩ := getElem?_values? hjs' hk'
      exact (h i v v' hv hv').value k k' hvalue hvalue'

/-! ### Edits -/

/-- One edit of a value that is read as one of the given type, where so many containers may be
entered. The keys of the objects that it goes through are distinct. -/
inductive Edit : Option FieldType → Nat → Raw → Raw → Prop
  /-- The members of an object come in another order, with others that say nothing. -/
  | rearrange {wanted : Option FieldType} {depth : Nat}
      {members members' : List (Option String × Raw)} (added : List (Option String × Raw))
      (nothing : ∀ p ∈ added, SaysNothing wanted depth p)
      (distinct : DistinctKeys (added ++ members)) (perm : members'.Perm (added ++ members)) :
      Edit wanted (depth + 1) (object members true) (object members' true)
  /-- The value of a member is edited. -/
  | member {wanted : Option FieldType} {depth : Nat} {key : Option String} {v v' : Raw}
      (before after : List (Option String × Raw))
      (distinct : DistinctKeys (before ++ (key, v) :: after))
      (value : Edit (memberType? wanted key) depth v v') :
      Edit wanted (depth + 1) (object (before ++ (key, v) :: after) true)
        (object (before ++ (key, v') :: after) true)
  /-- An item of an array is edited. -/
  | item {wanted : Option FieldType} {depth : Nat} {v v' : Raw} (before after : List Raw)
      (item : Edit (itemType? wanted before.length) depth v v') :
      Edit wanted (depth + 1) (array (before ++ v :: after) true)
        (array (before ++ v' :: after) true)

lemma covers_of_subset (h : members ⊆ members') : Covers wanted depth members members' :=
  fun p hp => .inr ⟨p, h hp, rfl, .refl _ _ _⟩

/-- Members are covered if one value is replaced by one that agrees with it. -/
lemma covers_set {key : Option String} {before after : List (Option String × Raw)}
    (h : v.Agree (memberType? wanted key) depth v') :
    Covers wanted depth (before ++ (key, v) :: after) (before ++ (key, v') :: after) := by
  intro p hp
  rcases List.mem_append.mp hp with hp | hp
  · exact .inr ⟨p, List.mem_append_left _ hp, rfl, .refl _ _ _⟩
  · rcases List.mem_cons.mp hp with rfl | hp
    · exact .inr ⟨(key, v'), List.mem_append_right _ List.mem_cons_self, rfl, h⟩
    · exact .inr ⟨p, List.mem_append_right _ (List.mem_cons_of_mem _ hp), rfl, .refl _ _ _⟩

/-- An edit changes nothing for a reader. -/
lemma Edit.agree (h : Edit wanted depth v v') : v.Agree wanted depth v' := by
  induction h with
  | rearrange added nothing distinct perm =>
    have hdistinct : DistinctKeys _ := (perm.filterMap Prod.fst).nodup_iff.mpr distinct
    refine agree_object ?_ hdistinct (covers_of_subset ?_) fun p hp => ?_
    · exact ((List.sublist_append_right _ _).filterMap _).nodup distinct
    · exact fun p hp => perm.mem_iff.mpr (List.mem_append_right _ hp)
    · rcases List.mem_append.mp (perm.mem_iff.mp hp) with hp | hp
      · exact .inl (nothing p hp)
      · exact .inr ⟨p, hp, rfl, .refl _ _ _⟩
  | member before after distinct value ih =>
    refine agree_object distinct ?_ (covers_set ih) (covers_set ih.symm)
    rw [DistinctKeys, List.filterMap_append, List.filterMap_cons] at distinct ⊢
    exact distinct
  | item before after item ih =>
    refine agree_array (by simp) fun i w w' hw hw' => ?_
    rcases Nat.lt_trichotomy i before.length with hi | rfl | hi
    · rw [List.getElem?_append_left hi] at hw hw'
      rw [hw, Option.some.injEq] at hw'
      rw [hw']
      exact .refl _ _ _
    · rw [List.getElem?_append_right (Nat.le_refl _), Nat.sub_self, List.getElem?_cons_zero,
        Option.some.injEq] at hw hw'
      rw [← hw, ← hw']
      exact ih
    · obtain ⟨k, rfl⟩ := Nat.exists_eq_add_of_lt hi
      rw [List.getElem?_append_right (Nat.le_of_lt hi), Nat.add_assoc, Nat.add_sub_cancel_left,
        List.getElem?_cons_succ] at hw hw'
      rw [hw, Option.some.injEq] at hw'
      rw [hw']
      exact .refl _ _ _

end Raw

end Json

end PlanImport
