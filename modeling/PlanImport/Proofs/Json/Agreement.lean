import PlanImport.Message.OfJson
import PlanImport.Proofs.Json.ByKeys

/-!
# Readings that agree

Two readings agree if no reader that wants a value of a certain type can tell them apart by what it
reads. Objects whose members agree under the names of a message are read as the same message, with
other members besides or without.
-/

namespace PlanImport

open Schema

variable {ε ε' : Type}

/-! ### Values -/

/-- Whether two readings have the same values where one of the given type is wanted, or where it is
only known that no message and no list is. -/
structure Reading.Agree (wanted : Option FieldType) (v : Reading ε) (v' : Reading ε') : Prop where
  isNull : v.isNull = v'.isNull
  scalar : ∀ type s, v.scalar type = .ok s ↔ v'.scalar type = .ok s
  text : ∀ s, v.text = .ok s ↔ v'.text = .ok s
  message : ∀ t, wanted = some (.message t) → ∀ m, v.message t = .ok m ↔ v'.message t = .ok m
  messages : ∀ t, wanted = some (.messages t) → ∀ ms, v.messages t = .ok ms ↔ v'.messages t = .ok ms
  strings : wanted = some .strings → ∀ ss, v.strings = .ok ss ↔ v'.strings = .ok ss

variable {wanted : Option FieldType} {type : FieldType} {v : Reading ε} {v' : Reading ε'}
  {slot : Slot} {m : Member} {t : MessageType} {entry : Entry} {rs : List (MemberReading ε)}
  {rs' : List (MemberReading ε')} {r : MemberReading ε} {r' : MemberReading ε'} {key : String}
  {message : Message}

namespace Reading.Agree

lemma refl (wanted : Option FieldType) (v : Reading ε) : v.Agree wanted v where
  isNull := rfl
  scalar _ _ := Iff.rfl
  text _ := Iff.rfl
  message _ _ _ := Iff.rfl
  messages _ _ _ := Iff.rfl
  strings _ _ := Iff.rfl

lemma symm (h : v.Agree wanted v') : v'.Agree wanted v where
  isNull := h.isNull.symm
  scalar type s := (h.scalar type s).symm
  text s := (h.text s).symm
  message t ht m := (h.message t ht m).symm
  messages t ht ms := (h.messages t ht ms).symm
  strings hs ss := (h.strings hs ss).symm

/-- Readings that agree fill a slot of their type with the same values. -/
lemma field (h : v.Agree (some type) v') : v.field type = .ok slot ↔ v'.field type = .ok slot := by
  cases type with
  | scalar type => simp [Reading.field, map_eq_ok, h.scalar]
  | message t =>
    rw [Reading.field, Reading.field, h.isNull]
    split_ifs
    · simp
    · simp [map_eq_ok, h.message t rfl]
  | messages t => simp [Reading.field, map_eq_ok, h.messages t rfl]
  | strings => simp [Reading.field, map_eq_ok, h.strings rfl]

lemma member (h : v.Agree (some m.type.toFieldType) v') :
    v.member m = .ok slot ↔ v'.member m = .ok slot := by
  unfold Reading.member
  cases htype : m.type with
  | scalar type => simp [map_eq_ok, h.scalar]
  | message t =>
    rw [htype] at h
    simp [map_eq_ok, h.message t rfl]

end Reading.Agree

/-! ### Members -/

/-- Whether two members of an object have the same key and agree as a value under it in a message:
when they are met if the key is that of a field, and else once they are known. -/
structure MemberReading.Agree (t : MessageType) (r : MemberReading ε) (r' : MemberReading ε') :
    Prop where
  key : ∀ key, r.key = .ok key ↔ r'.key = .ok key
  value : ∀ key i type, r.key = .ok key → field? t.entries key = some (i, type) →
    r.value.Agree (some type) r'.value
  skip : r.skip = .ok () ↔ r'.skip = .ok ()
  known : (∃ v, r.later = .ok v) ↔ ∃ v', r'.later = .ok v'
  later : ∀ key v v', r.key = .ok key → r.later = .ok v → r'.later = .ok v' →
    v.Agree (t.typeAt? key) v'

lemma MemberReading.Agree.refl (t : MessageType) (r : MemberReading ε) : r.Agree t r where
  key _ := Iff.rfl
  value _ _ _ _ _ := .refl _ _
  skip := Iff.rfl
  known := Iff.rfl
  later _ v v' _ hv hv' := by
    rw [hv, Except.ok.injEq] at hv'
    rw [hv']
    exact .refl _ _

lemma MemberReading.Agree.symm (h : r.Agree t r') : r'.Agree t r where
  key key := (h.key key).symm
  value key i type hkey hfield := (h.value key i type ((h.key key).mpr hkey) hfield).symm
  skip := h.skip.symm
  known := h.known.symm
  later key v v' hkey hv hv' := (h.later key v' v ((h.key key).mpr hkey) hv' hv).symm

/-- Whether a member of an object says nothing of a message: its key is not a name, or it is that
of a member of a oneof that is `null`. -/
inductive MemberReading.SaysNothing (t : MessageType) (r : MemberReading ε) : Prop
  | unknown (readable : r.Readable t) (key : ∀ key ∈ t.jsonNames, r.key ≠ .ok key)
  | null (member : ∃ members, .oneof members ∈ t.entries ∧ ∃ m ∈ members,
      r.key = .ok (jsonName m.name)) (value : ∃ v, r.later = .ok v ∧ v.isNull = true)

/-- Whether all that members of an object say of a message is said by others too. -/
def Schema.MessageType.Covers (t : MessageType) (rs : List (MemberReading ε))
    (rs' : List (MemberReading ε')) : Prop :=
  ∀ r ∈ rs, r.SaysNothing t ∨ ∃ r' ∈ rs', r.Agree t r'

/-- A member that says nothing is never a reason to refuse its message. -/
lemma MemberReading.SaysNothing.readable (h : r.SaysNothing t) : r.Readable t := by
  cases h with
  | unknown readable => exact readable
  | null member value =>
    obtain ⟨members, hmembers, m, hm, hkey⟩ := member
    obtain ⟨v, hv, -⟩ := value
    have hone : t.hasOneof = true := List.any_eq_true.mpr ⟨_, hmembers, rfl⟩
    exact ⟨_, hkey, fun _ => by rw [if_pos hone]; exact ⟨v, hv⟩⟩

/-- The name of a field is never without meaning. -/
lemma MemberReading.SaysNothing.not_field {f : Field} (h : r.SaysNothing t)
    (hf : .field f ∈ t.entries) : r.key ≠ .ok (jsonName f.name) := by
  have hname : jsonName f.name ∈ (Entry.field f).jsonNames := List.mem_singleton.mpr rfl
  intro hkey
  cases h with
  | unknown readable key => exact key _ (MessageType.mem_jsonNames hf hname) hkey
  | null member value =>
    obtain ⟨members, hmembers, m, hm, hkey'⟩ := member
    rw [hkey, Except.ok.injEq] at hkey'
    exact field?_eq_none_iff.mp (MessageType.field?_eq_none_of_member hmembers hm) f hf hkey'

lemma MemberReading.Agree.readable_iff (h : r.Agree t r') : r.Readable t ↔ r'.Readable t := by
  simp only [Readable, h.key, h.skip, h.known]

namespace Message

/-- A member of a oneof that has a value is found among the members that cover the others. -/
lemma gives_of_covers {members : List Member} {v : Reading String} (hcovers : t.Covers rs rs')
    (hmembers : .oneof members ∈ t.entries) (hm : m ∈ members) (h : MemberReading.Gives rs m v) :
    ∃ v', MemberReading.Gives rs' m v' ∧ v.Agree (some m.type.toFieldType) v' := by
  obtain ⟨r, hr, hkey, hlater, hnull⟩ := h
  rcases hcovers r hr with hnothing | ⟨r', hr', hagree⟩
  · cases hnothing with
    | unknown readable key =>
      exact absurd hkey (key _ (MessageType.mem_jsonNames hmembers (List.mem_map_of_mem hm)))
    | null member value =>
      obtain ⟨v', hv', hnull'⟩ := value
      rw [hlater] at hv'
      cases hv'
      rw [hnull] at hnull'
      cases hnull'
  · obtain ⟨v', hv'⟩ := hagree.known.mp ⟨v, hlater⟩
    have hvalue := hagree.later _ v v' hkey hlater hv'
    rw [MessageType.typeAt?_member hmembers hm] at hvalue
    exact ⟨v', ⟨r', hr', (hagree.key _).mp hkey, hv', hvalue.isNull ▸ hnull⟩, hvalue⟩

/-- What an entry is read as depends only on what the members say of it. -/
lemma readsAs_of_covers (hcovers : t.Covers rs rs') (hcovers' : t.Covers rs' rs)
    (hentry : entry ∈ t.entries) (h : entry.ReadsAs rs slot) : entry.ReadsAs rs' slot := by
  cases entry with
  | field f =>
    rcases h with ⟨r, hr, hkey, hslot⟩ | ⟨rfl, hnone⟩
    · rcases hcovers r hr with hnothing | ⟨r', hr', hagree⟩
      · exact absurd hkey (hnothing.not_field hentry)
      · obtain ⟨i, hi⟩ := List.mem_iff_getElem?.mp hentry
        have hfield := MessageType.field?_eq_some_iff.mpr ⟨f, hi, rfl, rfl⟩
        exact .inl ⟨r', hr', (hagree.key _).mp hkey,
          (hagree.value _ i f.type hkey hfield).field.mp hslot⟩
    · refine .inr ⟨rfl, fun r' hr' hkey => ?_⟩
      rcases hcovers' r' hr' with hnothing | ⟨r, hr, hagree⟩
      · exact hnothing.not_field hentry hkey
      · exact hnone r hr ((hagree.key _).mp hkey)
  | oneof members =>
    rcases h with ⟨m, hm, v, hv, hslot, honly⟩ | ⟨rfl, hnone⟩
    · obtain ⟨v', hv', hagree⟩ := gives_of_covers hcovers hentry hm hv
      refine .inl ⟨m, hm, v', hv', hagree.member.mp hslot, fun m' hm' w' hw' => ?_⟩
      obtain ⟨w, hw, -⟩ := gives_of_covers hcovers' hentry hm' hw'
      exact honly m' hm' w hw
    · refine .inr ⟨rfl, fun m hm v' hv' => ?_⟩
      obtain ⟨v, hv, -⟩ := gives_of_covers hcovers' hentry hm hv'
      exact hnone m hm v hv

/-- Members that say the same are read as the same message. -/
lemma readByKeys_of_covers (hcovers : t.Covers rs rs') (hcovers' : t.Covers rs' rs)
    (h : message.ReadByKeys t rs) : message.ReadByKeys t rs' where
  readable r' hr' := by
    rcases hcovers' r' hr' with hnothing | ⟨r, hr, hagree⟩
    · exact hnothing.readable
    · exact hagree.readable_iff.mpr (h.readable r hr)
  slots := ((List.forall₂_and_left _ _).mpr ⟨fun _ hentry => hentry, h.slots⟩).imp
    fun _ _ ⟨hentry, hread⟩ => readsAs_of_covers hcovers hcovers' hentry hread

end Message

/-- Whether members of two objects say the same of a message, each of its names once at most. -/
structure Schema.MessageType.SaySame (t : MessageType) (rs : List (MemberReading ε))
    (rs' : List (MemberReading ε')) : Prop where
  once : t.NamesOnce rs
  once' : t.NamesOnce rs'
  covers : t.Covers rs rs'
  covers' : t.Covers rs' rs

lemma Schema.MessageType.SaySame.readByKeys_iff (h : t.SaySame rs rs') :
    message.ReadByKeys t rs ↔ message.ReadByKeys t rs' :=
  ⟨Message.readByKeys_of_covers h.covers h.covers', Message.readByKeys_of_covers h.covers' h.covers⟩

end PlanImport
