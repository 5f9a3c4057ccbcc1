import PlanImport.Proofs.Json.Agreement

/-!
# Known objects

The members of an object that is known are in the order of their keys, and of several with the same
key the last one is left. This changes nothing for a message whose names occur once at most.
-/

namespace PlanImport

open Schema

namespace Json

/-! ### Members in order -/

def inOrder (members : List (String × Json)) : List (String × Json) :=
  members.foldl (fun sorted (k, v) => insertMember k v sorted) []

lemma ofMembers_eq (members : List (String × Json)) : ofMembers members = .object (inOrder members) :=
  rfl

variable {key : String} {value : Json} {p : String × Json} {members sorted : List (String × Json)}

lemma mem_of_mem_insertMember (h : p ∈ insertMember key value members) :
    p = (key, value) ∨ p ∈ members := by
  induction members with
  | nil => exact .inl (List.mem_singleton.mp h)
  | cons q members ih =>
    rw [insertMember] at h
    split_ifs at h
    · exact List.mem_cons.mp h
    · exact (List.mem_cons.mp h).imp_right (List.mem_cons_of_mem q)
    · rcases List.mem_cons.mp h with rfl | h
      · exact .inr List.mem_cons_self
      · exact (ih h).imp_right (List.mem_cons_of_mem q)

lemma mem_insertMember_self : (key, value) ∈ insertMember key value members := by
  induction members with
  | nil => exact List.mem_singleton.mpr rfl
  | cons q members ih =>
    rw [insertMember]
    split_ifs
    · exact List.mem_cons_self
    · exact List.mem_cons_self
    · exact List.mem_cons_of_mem q ih

lemma mem_insertMember_of_ne (hne : p.1 ≠ key) (h : p ∈ members) :
    p ∈ insertMember key value members := by
  induction members with
  | nil => cases h
  | cons q members ih =>
    rw [insertMember]
    split_ifs with hlt heq
    · exact List.mem_cons_of_mem _ h
    · rcases List.mem_cons.mp h with rfl | h
      · exact absurd heq.symm hne
      · exact List.mem_cons_of_mem _ h
    · rcases List.mem_cons.mp h with rfl | h
      · exact List.mem_cons_self
      · exact List.mem_cons_of_mem q (ih h)

/-- Members stay in the order of their keys, which is strict as a member replaces one of the same
key. -/
lemma pairwise_insertMember (h : members.Pairwise fun a b => a.1 < b.1) :
    (insertMember key value members).Pairwise fun a b => a.1 < b.1 := by
  induction members with
  | nil => exact List.pairwise_singleton _ _
  | cons q members ih =>
    obtain ⟨hq, hmembers⟩ := List.pairwise_cons.mp h
    rw [insertMember]
    split_ifs with hlt heq
    · exact List.pairwise_cons.mpr ⟨List.forall_mem_cons.mpr
        ⟨hlt, fun p hp => String.lt_trans hlt (hq p hp)⟩, h⟩
    · exact List.pairwise_cons.mpr ⟨fun p hp => heq ▸ hq p hp, hmembers⟩
    · refine List.pairwise_cons.mpr ⟨fun p hp => ?_, ih hmembers⟩
      rcases mem_of_mem_insertMember hp with rfl | hp
      · exact String.not_le.mp fun hle => heq (String.le_antisymm (String.not_lt.mp hlt) hle).symm
      · exact hq p hp

lemma pairwise_inOrder (members : List (String × Json)) :
    (inOrder members).Pairwise fun a b => a.1 < b.1 := by
  suffices h : ∀ sorted : List (String × Json), sorted.Pairwise (fun a b => a.1 < b.1) →
      (members.foldl (fun sorted (k, v) => insertMember k v sorted) sorted).Pairwise
        fun a b => a.1 < b.1 from h [] List.Pairwise.nil
  induction members with
  | nil => exact fun sorted h => h
  | cons p members ih => exact fun sorted h => ih _ (pairwise_insertMember h)

/-- No member is made up by putting them in order. -/
lemma mem_of_mem_inOrder (h : p ∈ inOrder members) : p ∈ members := by
  suffices hfold : ∀ sorted : List (String × Json),
      p ∈ members.foldl (fun sorted (k, v) => insertMember k v sorted) sorted →
        p ∈ members ∨ p ∈ sorted from (hfold [] h).resolve_right List.not_mem_nil
  clear h
  induction members with
  | nil => exact fun sorted h => .inr h
  | cons q members ih =>
    intro sorted h
    rcases ih _ h with h | h
    · exact .inl (List.mem_cons_of_mem q h)
    · exact (mem_of_mem_insertMember h).imp_left fun heq => by rw [heq]; exact List.mem_cons_self

/-- A member whose key occurs once is left. -/
lemma mem_inOrder (h : p ∈ members) (honce : ∀ q ∈ members, q.1 = p.1 → q = p) :
    p ∈ inOrder members := by
  -- Along the way the member is either still to come or in place already.
  suffices hfold : ∀ sorted : List (String × Json), p ∈ members ∨ p ∈ sorted →
      p ∈ members.foldl (fun sorted (k, v) => insertMember k v sorted) sorted from
    hfold [] (.inl h)
  clear h
  induction members with
  | nil => exact fun sorted h => h.resolve_left List.not_mem_nil
  | cons q members ih =>
    obtain ⟨hq, honce⟩ := List.forall_mem_cons.mp honce
    intro sorted h
    refine ih honce _ ?_
    by_cases heq : q.1 = p.1
    · rw [hq heq]
      exact .inr mem_insertMember_self
    · rw [List.mem_cons, or_assoc] at h
      rcases h with rfl | h | h
      · exact absurd rfl heq
      · exact .inl h
      · exact .inr (mem_insertMember_of_ne (Ne.symm heq) h)

/-! ### Messages -/

lemma isNull_reading (j : Json) : j.reading.isNull = j.isNull := by
  cases j <;> rfl

lemma memberReadings_eq_map (members : List (String × Json)) :
    memberReadings members = members.map fun p => memberReading p.1 p.2.reading := by
  induction members with
  | nil => rfl
  | cons p members ih => rw [memberReadings, ih, List.map_cons]

variable {t : MessageType} {message : Message}

lemma readable_memberReading (key : String) (v : Reading String) :
    (memberReading key v).Readable t := by
  refine ⟨key, rfl, fun _ => ?_⟩
  split_ifs
  · exact ⟨v, rfl⟩
  · rfl

lemma namesOnce_memberReadings : t.NamesOnce (memberReadings members) ↔
    members.Pairwise fun a b => ∀ key ∈ t.jsonNames, a.1 = key → b.1 ≠ key := by
  simp [MessageType.NamesOnce, memberReadings_eq_map, List.pairwise_map, memberReading]

lemma message_object_iff (hnames : t.NamesOnce (memberReadings members)) :
    (object members).reading.message t = .ok message ↔
      message.ReadByKeys t (memberReadings members) := by
  rw [reading, objectReading, Reading.ofMembers_eq_ok_iff hnames]
  exact and_iff_right rfl

/-- With each name once, putting members in order drops nothing that matters to the message. -/
lemma covers_inOrder (hnames : t.NamesOnce (memberReadings members)) :
    t.Covers (memberReadings members) (memberReadings (inOrder members)) := by
  rw [namesOnce_memberReadings] at hnames
  rw [memberReadings_eq_map, memberReadings_eq_map]
  refine List.forall_mem_map.mpr fun p hp => ?_
  by_cases hname : p.1 ∈ t.jsonNames
  · have hmem := mem_inOrder hp fun q hq hkey => eq_of_pairwise_not hnames hq hp hname hkey rfl
    exact .inr ⟨_, List.mem_map_of_mem hmem, .refl t _⟩
  · refine .inl (.unknown (readable_memberReading _ _) fun key hkey heq => ?_)
    cases heq
    exact hname hkey

lemma namesOnce_inOrder (t : MessageType) (members : List (String × Json)) :
    t.NamesOnce (memberReadings (inOrder members)) :=
  namesOnce_memberReadings.mpr ((pairwise_inOrder members).imp fun hlt key _ ha hb => by
    rw [ha, hb] at hlt
    exact String.lt_irrefl _ hlt)

/-- An object that becomes known is read by its keys. -/
lemma message_ofMembers_iff (hnames : t.NamesOnce (memberReadings members)) :
    (ofMembers members).reading.message t = .ok message ↔
      message.ReadByKeys t (memberReadings members) := by
  have hcovers : t.Covers (memberReadings (inOrder members)) (memberReadings members) := by
    rw [memberReadings_eq_map, memberReadings_eq_map]
    exact List.forall_mem_map.mpr fun p hp =>
      .inr ⟨_, List.mem_map_of_mem (mem_of_mem_inOrder hp), .refl t _⟩
  rw [ofMembers_eq, message_object_iff (namesOnce_inOrder t members)]
  exact ⟨Message.readByKeys_of_covers hcovers (covers_inOrder hnames),
    Message.readByKeys_of_covers (covers_inOrder hnames) hcovers⟩

end Json

end PlanImport
