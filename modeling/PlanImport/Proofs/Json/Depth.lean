import Mathlib.Data.List.Count
import Mathlib.Data.Option.Basic
import PlanImport.Proofs.Json.Order
import PlanImport.Proofs.Json.Text

/-!
# Relations of their own and relations of a plan

A relation is read while its text is gone through, and a relation of a plan once its value is known.
The two agree as long as no kind of relation is given twice. If one is, the text of the relation
has a oneof that is set twice, while in the value only the last one is left.
-/

namespace PlanImport

open Schema Json

variable {s : String} {v : Raw} {members : List (Option String × Raw)}
  {jms : List (String × Json)} {j : Json} {m p : Message} {depth : Nat}

namespace Message

/-! ### A plan of one relation -/

lemma readable_planRel_iff :
    (∀ r ∈ Raw.memberReadings depth [(some "rel", v)], r.Readable .planRel) ↔
      ∃ j, v.value? depth = some j := by
  have hfield : field? MessageType.planRel.entries "rel" = none := rfl
  have hone : MessageType.planRel.hasOneof = true := rfl
  simp [Raw.memberReadings_eq_map, MemberReading.Readable, hfield, hone]

/-- The only member of an object is read as the relation of a plan. -/
lemma readByKeys_planRel_iff (hj : v.value? depth = some j) (hnull : j.isNull = false) :
    p.ReadByKeys .planRel (Raw.memberReadings depth [(some "rel", v)]) ↔
      ∃ m, p = ⟨[.chosenMessage 1 m]⟩ ∧ j.reading.message .rel = .ok m := by
  -- The only member has a value under its own key, and this value is the known one.
  have hgives (m : Member) (w : Reading String) :
      MemberReading.Gives (Raw.memberReadings depth [(some "rel", v)]) m w ↔
        jsonName m.name = "rel" ∧ w = j.reading := by
    simp only [MemberReading.Gives, Raw.memberReadings_eq_map, List.map_cons, List.map_nil,
      List.mem_singleton, exists_eq_left, Raw.memberReading_key_eq_ok_iff,
      Raw.memberReading_later_eq_ok_iff, hj, Option.some.injEq]
    constructor
    · rintro ⟨hname, ⟨_, rfl, rfl⟩, -⟩
      exact ⟨hname.symm, rfl⟩
    · rintro ⟨hname, rfl⟩
      exact ⟨hname.symm, ⟨j, rfl, rfl⟩, (isNull_reading j).trans hnull⟩
  have hentries : MessageType.planRel.entries =
    [.oneof [⟨1, "rel", .message .rel⟩, ⟨2, "root", .message .relRoot⟩]] := rfl
  have hrel : jsonName "rel" = "rel" := by decide +kernel
  have hroot : jsonName "root" ≠ "rel" := by decide +kernel
  constructor
  · rintro ⟨-, hslots⟩
    rw [hentries] at hslots
    obtain ⟨slots⟩ := p
    obtain ⟨slot, rest, hslot, hrest, hcons⟩ := List.forall₂_cons_left_iff.mp hslots
    cases List.forall₂_nil_left_iff.mp hrest
    cases hcons
    -- The oneof is set, and not to the other member of a relation of a plan.
    rcases hslot with ⟨m, hm, w, hw, hslot, -⟩ | ⟨-, hnone⟩
    · obtain ⟨hname, rfl⟩ := (hgives m w).mp hw
      rcases List.mem_pair.mp hm with rfl | rfl
      · obtain ⟨m, hm, rfl⟩ := map_eq_ok.mp hslot
        exact ⟨m, rfl, hm⟩
      · exact absurd hname hroot
    · exact absurd ((hgives _ _).mpr ⟨hrel, rfl⟩) (hnone _ List.mem_cons_self j.reading)
  · rintro ⟨m, rfl, hm⟩
    refine ⟨readable_planRel_iff.mpr ⟨j, hj⟩, ?_⟩
    rw [hentries]
    refine .cons (.inl ⟨_, List.mem_cons_self, j.reading, (hgives _ _).mpr ⟨hrel, rfl⟩, ?_, ?_⟩) .nil
    · exact map_eq_ok.mpr ⟨m, hm, rfl⟩
    · intro m' hm' w hw
      rcases List.mem_pair.mp hm' with rfl | rfl
      · rfl
      · exact absurd ((hgives _ _).mp hw).1 hroot

/-! ### Relations -/

lemma field?_rel (key : String) : field? MessageType.rel.entries key = none := by
  rw [field?_eq_none_iff]
  simp [MessageType.entries]

lemma known_of_readable_rel {p : Option String × Raw}
    (h : (Raw.memberReading depth p).Readable .rel) :
    ∃ j : String × Json, p.1 = some j.1 ∧ p.2.value? depth = some j.2 := by
  obtain ⟨key, hkey, hread⟩ := h
  obtain ⟨v, hv⟩ : ∃ v, (Raw.memberReading depth p).later = .ok v := hread (field?_rel key)
  obtain ⟨j, hj, -⟩ := Raw.memberReading_later_eq_ok_iff.mp hv
  exact ⟨(key, j), Raw.memberReading_key_eq_ok_iff.mp hkey, hj⟩

lemma namesOnce_rel (hnames : members.Pairwise fun a b =>
      ∀ name ∈ MessageType.rel.jsonNames, a.1 = some name → b.1 ≠ some name) :
    MessageType.rel.NamesOnce (Raw.memberReadings depth members) := by
  rw [Raw.memberReadings_eq_map]
  refine List.pairwise_map.mpr (hnames.imp fun hne name hname ha hb => ?_)
  exact hne name hname (Raw.memberReading_key_eq_ok_iff.mp ha)
    (Raw.memberReading_key_eq_ok_iff.mp hb)

/-- Members of which no two are of one kind of relation say the same in a text and as values. -/
lemma saySame_rel (hnames : members.Pairwise fun a b =>
      ∀ name ∈ MessageType.rel.jsonNames, a.1 = some name → b.1 ≠ some name)
    (hjms : Raw.memberValues? depth members = some jms)
    (hvalue : ∀ p ∈ members, p.2.value? (depth + 1) = p.2.value? depth) :
    MessageType.rel.SaySame (Raw.memberReadings (depth + 1) members) (memberReadings jms) := by
  -- As a relation has no fields, a member is only ever read for its oneof, from its known value.
  have hagree {p : Option String × Raw} {j : String × Json} (hp : p ∈ members)
      (hkey : p.1 = some j.1) (hj : p.2.value? depth = some j.2) :
      (Raw.memberReading (depth + 1) p).Agree .rel (memberReading j.1 j.2.reading) := by
    rw [← hvalue p hp] at hj
    constructor
    · intro key
      rw [Raw.memberReading_key_eq_ok_iff, hkey, Option.some.injEq, memberReading, Except.ok.injEq]
    · intro key i type _ hfield
      rw [field?_rel] at hfield
      cases hfield
    · exact iff_of_true (Raw.memberReading_skip_eq_ok_iff.mpr (Raw.isWhole_of_value? hj)) rfl
    · exact iff_of_true ⟨_, Raw.memberReading_later_eq_ok_iff.mpr ⟨_, hj, rfl⟩⟩ ⟨_, rfl⟩
    · intro key w w' _ hw hw'
      obtain ⟨j', hj', rfl⟩ := Raw.memberReading_later_eq_ok_iff.mp hw
      rw [hj] at hj'
      cases hj'
      cases hw'
      exact .refl _ _
  constructor
  · exact namesOnce_rel hnames
  · have hkeys : (members.map Prod.fst).Pairwise fun a b =>
        ∀ name ∈ MessageType.rel.jsonNames, a = some name → b ≠ some name :=
      List.pairwise_map.mpr hnames
    rw [Raw.map_fst_of_memberValues? hjms] at hkeys
    refine namesOnce_memberReadings.mpr ((List.pairwise_map.mp hkeys).imp ?_)
    exact fun hne name hname ha hb => hne name hname (congrArg some ha) (congrArg some hb)
  · rw [Raw.memberReadings_eq_map, memberReadings_eq_map]
    refine List.forall_mem_map.mpr fun p hp => ?_
    obtain ⟨j, hkey, hj⟩ := Raw.exists_memberValues?_iff.mp ⟨jms, hjms⟩ p hp
    have hmem := (Raw.mem_memberValues?_iff hjms).mpr ⟨p, hp, hkey, hj⟩
    exact .inr ⟨_, List.mem_map_of_mem hmem, hagree hp hkey hj⟩
  · rw [Raw.memberReadings_eq_map, memberReadings_eq_map]
    refine List.forall_mem_map.mpr fun j hmem => ?_
    obtain ⟨p, hp, hkey, hj⟩ := (Raw.mem_memberValues?_iff hjms).mp hmem
    exact .inr ⟨_, List.mem_map_of_mem hp, (hagree hp hkey hj).symm⟩

/-- Of an object that is read as a relation all values are known. -/
lemma exists_memberValues?_of_rel
    (h : ((Raw.object members true).reading (depth + 1)).message .rel = .ok m) :
    ∃ jms, Raw.memberValues? depth members = some jms := by
  obtain ⟨_, -, h⟩ := bind_eq_ok.mp h
  obtain ⟨-, slots, others, hfill, -⟩ := Reading.ofMembers_eq_ok_iff_fill.mp h
  have hreadable := Reading.readable_of_fillFields hfill
  simp only [Nat.add_sub_cancel, Raw.memberReadings_eq_map] at hreadable
  exact Raw.exists_memberValues?_iff.mpr fun p hp =>
    known_of_readable_rel (hreadable _ (List.mem_map_of_mem hp))

/-- The same of one that is read as the relation of a plan. -/
lemma exists_memberValues?_of_planRel
    (h : ((Raw.object [(some "rel", .object members true)] true).reading (depth + 2)).message
      .planRel = .ok p) : ∃ jms, Raw.memberValues? depth members = some jms := by
  have honce : Raw.DistinctKeys [(some "rel", Raw.object members true)] := by
    simp [Raw.DistinctKeys]
  rw [message_object_eq_ok_iff (honce.namesOnce _)] at h
  obtain ⟨j, hj⟩ := readable_planRel_iff.mp h.readable
  obtain ⟨-, -, jms, hjms, -⟩ := Raw.value?_object_eq_some_iff.mp hj
  exact ⟨jms, hjms⟩

/-- Inside of a plan one container less may be entered, which is still enough for the values of an
object that fits there. -/
lemma value?_eq_of_mem (hnesting : (Raw.object members true).nesting < Raw.maxDepth) :
    ∀ p ∈ members, p.2.value? (125 + 1) = p.2.value? 125 := by
  intro p hp
  have hle : p.2.nesting ≤ 125 := Nat.le_trans (Raw.nesting_le_of_mem hp)
    (Nat.le_of_lt_succ (Nat.lt_of_succ_lt_succ hnesting))
  exact Raw.value?_eq_of_nesting_le p.2 (Nat.le_succ_of_le hle) hle

/-- A relation whose kinds are given once at most is read alike from its text and as the relation of
a plan. -/
lemma message_planRel_iff (hnesting : (Raw.object members true).nesting < Raw.maxDepth)
    (hnames : members.Pairwise fun a b =>
      ∀ name ∈ MessageType.rel.jsonNames, a.1 = some name → b.1 ≠ some name) :
    ((Raw.object [(some "rel", .object members true)] true).reading Raw.maxDepth).message .planRel =
        .ok p ↔
      ∃ m, p = ⟨[.chosenMessage 1 m]⟩ ∧
        ((Raw.object members true).reading Raw.maxDepth).message .rel = .ok m := by
  have hvalue := value?_eq_of_mem hnesting
  cases hjms : Raw.memberValues? 125 members with
  | none =>
    have hnone : ¬ ∃ jms, Raw.memberValues? 125 members = some jms := by simp [hjms]
    constructor
    · intro hp
      exact absurd (exists_memberValues?_of_planRel hp) hnone
    · rintro ⟨m, -, hm⟩
      have hknown := Raw.exists_memberValues?_iff.mp (exists_memberValues?_of_rel hm)
      refine absurd (Raw.exists_memberValues?_iff.mpr fun p hp => ?_) hnone
      rw [← hvalue p hp]
      exact hknown p hp
  | some jms =>
    have honce : Raw.DistinctKeys [(some "rel", Raw.object members true)] := by
      simp [Raw.DistinctKeys]
    have hj : (Raw.object members true).value? (125 + 1) = some (ofMembers jms) :=
      Raw.value?_object_eq_some_iff.mpr ⟨by decide, rfl, jms, hjms, rfl⟩
    have hsame := saySame_rel hnames hjms hvalue
    simp only [Raw.maxDepth]
    rw [message_object_eq_ok_iff (honce.namesOnce _), readByKeys_planRel_iff hj rfl]
    simp only [message_object_eq_ok_iff (namesOnce_rel hnames), message_ofMembers_iff hsame.once',
      hsame.readByKeys_iff]

/-- An object with a key that has no text is read in neither place. -/
lemma message_planRel_iff_of_none_mem (hkeys : none ∈ members.map Prod.fst) :
    ((Raw.object [(some "rel", .object members true)] true).reading Raw.maxDepth).message .planRel =
        .ok p ↔
      ∃ m, p = ⟨[.chosenMessage 1 m]⟩ ∧
        ((Raw.object members true).reading Raw.maxDepth).message .rel = .ok m := by
  obtain ⟨q, hq, hkey⟩ := List.mem_map.mp hkeys
  have hunknown (depth : Nat) : ¬ ∃ jms, Raw.memberValues? depth members = some jms := by
    intro h
    obtain ⟨j, hj, -⟩ := Raw.exists_memberValues?_iff.mp h q hq
    rw [hkey] at hj
    cases hj
  constructor
  · intro hp
    exact absurd (exists_memberValues?_of_planRel hp) (hunknown _)
  · rintro ⟨m, -, hm⟩
    exact absurd (exists_memberValues?_of_rel hm) (hunknown _)

/-! ### Kinds that are given twice -/

/-- An object of the given keys that is empty wherever the key is the given one. -/
def repeating (name : String) (keys : List String) : List (Option String × Raw) :=
  keys.map fun key => (some key, if key = name then .object [] true else .null)

def knownRepeating (name : String) (keys : List String) : List (String × Json) :=
  keys.map fun key => (key, if key = name then .object [] else .null)

lemma memberValues?_repeating (name : String) (keys : List String) :
    Raw.memberValues? (depth + 1) (repeating name keys) = some (knownRepeating name keys) := by
  rw [Raw.memberValues?_eq_some_iff, repeating, knownRepeating, List.forall₂_map_left_iff,
    List.forall₂_map_right_iff, List.forall₂_same]
  intro key _
  split_ifs <;> exact ⟨rfl, rfl⟩

lemma nesting_repeating_le (name : String) (keys : List String) :
    (Raw.object (repeating name keys) true).nesting ≤ 2 := by
  suffices h : Raw.membersNesting (repeating name keys) ≤ 1 from Nat.succ_le_succ h
  induction keys with
  | nil => exact Nat.zero_le 1
  | cons key keys ih =>
    refine Nat.max_le.mpr ⟨?_, ih⟩
    split_ifs <;> decide

/-- Every message is read from an object without members. -/
lemma message_object_nil (t : MessageType) :
    (Json.object []).reading.message t = .ok (.empty t) := by
  cases t <;> rfl

/-- A relation has nothing but its kind, and each kind is a message. -/
lemma exists_kind_of_mem_jsonNames {name : String} (hname : name ∈ MessageType.rel.jsonNames) :
    ∃ kinds kind t, MessageType.rel.entries = [.oneof kinds] ∧ kind ∈ kinds ∧
      jsonName kind.name = name ∧ kind.type = .message t := by
  obtain ⟨kinds, hkinds⟩ : ∃ kinds, MessageType.rel.entries = [.oneof kinds] := ⟨_, rfl⟩
  rw [MessageType.jsonNames, hkinds] at hname
  obtain ⟨kind, hkind, rfl⟩ : ∃ kind ∈ kinds, jsonName kind.name = name := by
    simpa [Entry.jsonNames] using hname
  have htype : ∀ kind ∈ kinds, ∃ t, kind.type = .message t := by
    cases hkinds
    simp
  obtain ⟨t, ht⟩ := htype kind hkind
  exact ⟨kinds, kind, t, hkinds, hkind, rfl, ht⟩

/-- A relation has no fields, so all its members wait for the oneof. -/
lemma filterMap_kept?_repeating (name : String) (keys : List String) :
    (Raw.memberReadings (depth + 1) (repeating name keys)).filterMap
      (Reading.kept? MessageType.rel.entries) =
        (knownRepeating name keys).map fun p => (p.1, p.2.reading) := by
  rw [Raw.memberReadings_eq_map, repeating, knownRepeating, List.map_map, List.filterMap_map,
    List.map_map]
  refine List.filterMap_eq_map_iff_forall_eq_some.mpr fun key _ => ?_
  refine Reading.kept?_eq_some_iff.mpr ⟨?_, field?_rel key, ?_⟩
  · exact Raw.memberReading_key_eq_ok_iff.mpr rfl
  · refine Raw.memberReading_later_eq_ok_iff.mpr ⟨_, ?_, rfl⟩
    dsimp only
    split_ifs <;> rfl

/-- A key that is given several times is found so often. -/
lemma length_given_knownRepeating {kinds : List Member} {name : String} {kind : Member}
    (hkind : member? kinds name = some kind) (keys : List String) :
    (Reading.given kinds ((knownRepeating name keys).map fun p => (p.1, p.2.reading))).length =
      keys.count name := by
  induction keys with
  | nil => rfl
  | cons key keys ih =>
    rw [List.count_cons, ← ih]
    by_cases hkey : key = name
    · subst hkey
      simp [knownRepeating, Reading.given, hkind, Json.reading, Json.objectReading,
        Json.leafReading, Json.isNull]
    · simp [knownRepeating, Reading.given, hkey, Json.reading, Json.leafReading, Json.isNull]

/-- A oneof of which two members have a value is not read. -/
lemma oneof_ne_ok {kinds : List Member} {others : List (String × Reading String)} {slot : Slot}
    (h : 2 ≤ (Reading.given kinds others).length) : Reading.oneof kinds others ≠ .ok slot := by
  unfold Reading.oneof
  split
  · next hgiven => simp [hgiven] at h
  · next hgiven => simp [hgiven] at h
  · nofun

/-- Read directly, a relation sees the repeated key and refuses it. -/
lemma message_rel_repeating_ne_ok {name : String} {keys : List String}
    (hname : name ∈ MessageType.rel.jsonNames) (hcount : 2 ≤ keys.count name) :
    ((Raw.object (repeating name keys) true).reading Raw.maxDepth).message .rel ≠ .ok m := by
  intro h
  obtain ⟨kinds, kind, -, hentries, hkind, hkey, -⟩ := exists_kind_of_mem_jsonNames hname
  have hmember : member? kinds name = some kind :=
    (MessageType.member?_eq_some_iff (hentries ▸ List.mem_singleton.mpr rfl)).mpr ⟨hkind, hkey⟩
  obtain ⟨_, -, h⟩ := bind_eq_ok.mp h
  obtain ⟨-, slots, others, hfill, h⟩ := Reading.ofMembers_eq_ok_iff_fill.mp h
  have hlength := Reading.length_of_fillFields (List.length_map _) hfill
  have hothers : others = (knownRepeating name keys).map fun p => (p.1, p.2.reading) :=
    (Reading.others_of_fillFields hfill).trans (filterMap_kept?_repeating name keys)
  -- All members wait for the only oneof, and it finds its name among them more than once.
  rw [hentries] at h hlength
  obtain ⟨slot, rfl⟩ := List.length_eq_one_iff.mp hlength
  obtain ⟨slot', hslot', -⟩ := bind_eq_ok.mp h
  refine oneof_ne_ok ?_ hslot'
  rwa [hothers, length_given_knownRepeating hmember]

/-- Once it is known, the object has only the last of equal keys, and nothing is left of the
repetition. -/
lemma message_rel_knownRepeating {name : String} {keys : List String}
    (hname : name ∈ MessageType.rel.jsonNames) (hmem : name ∈ keys) :
    ∃ m, (ofMembers (knownRepeating name keys)).reading.message .rel = .ok m := by
  obtain ⟨kinds, kind, t, hentries, hkind, hkey, htype⟩ := exists_kind_of_mem_jsonNames hname
  have hentry : .oneof kinds ∈ MessageType.rel.entries := hentries ▸ List.mem_singleton.mpr rfl
  -- Only the key in question has a value that is not `null`.
  have hvalue : ∀ q ∈ knownRepeating name keys, q.2.isNull = false → q.1 = name := by
    refine List.forall_mem_map.mpr fun key _ hnull => ?_
    by_contra hne
    simp [hne, Json.isNull] at hnull
  have hgiven : (name, Json.object []) ∈ inOrder (knownRepeating name keys) := by
    refine mem_inOrder (List.mem_map.mpr ⟨name, hmem, by simp⟩) ?_
    refine List.forall_mem_map.mpr fun key _ hkey => ?_
    have hkey : key = name := hkey
    simp [hkey]
  refine ⟨⟨[.chosenMessage kind.number (.empty t)]⟩, ?_⟩
  rw [ofMembers_eq, message_object_iff (namesOnce_inOrder _ _)]
  constructor
  · rw [memberReadings_eq_map]
    exact List.forall_mem_map.mpr fun q _ => readable_memberReading _ _
  · rw [hentries, memberReadings_eq_map]
    refine .cons (.inl ⟨kind, hkind, _, ⟨_, List.mem_map_of_mem hgiven, ?_, rfl, rfl⟩, ?_, ?_⟩) .nil
    · rw [hkey]
      rfl
    · rw [Reading.member, htype]
      exact map_eq_ok.mpr ⟨_, message_object_nil t, rfl⟩
    · rintro m' hm' v' ⟨r, hr, hrkey, hlater, hnull⟩
      obtain ⟨q, hq, rfl⟩ := List.mem_map.mp hr
      cases hlater
      rw [isNull_reading] at hnull
      have hname : jsonName m'.name = name := by
        rw [← hvalue q (mem_of_mem_inOrder hq) hnull]
        exact (Except.ok.inj hrkey).symm
      have hmember := (MessageType.member?_eq_some_iff hentry).mpr ⟨hm', hname⟩
      rw [(MessageType.member?_eq_some_iff hentry).mpr ⟨hkind, hkey⟩] at hmember
      exact (Option.some.inj hmember).symm

/-- No matter which keys an object has, if a kind of relation occurs twice there are values with
which it is the relation of a plan. -/
lemma exists_planRel_of_repeated {keys : List String} {name : String}
    (hname : name ∈ MessageType.rel.jsonNames) (hcount : 2 ≤ keys.count name) :
    ∃ p, ((Raw.object [(some "rel", .object (repeating name keys) true)] true).reading
      Raw.maxDepth).message .planRel = .ok p := by
  have honce : Raw.DistinctKeys [(some "rel", Raw.object (repeating name keys) true)] := by
    simp [Raw.DistinctKeys]
  have hj : (Raw.object (repeating name keys) true).value? 126 =
      some (ofMembers (knownRepeating name keys)) :=
    Raw.value?_object_eq_some_iff.mpr ⟨by decide, rfl, _, memberValues?_repeating name keys, rfl⟩
  obtain ⟨m, hm⟩ := message_rel_knownRepeating hname
    (List.count_pos_iff.mp (Nat.lt_of_lt_of_le Nat.zero_lt_two hcount))
  exact ⟨⟨[.chosenMessage 1 m]⟩, (message_object_eq_ok_iff (honce.namesOnce _)).mpr
    ((readByKeys_planRel_iff hj rfl).mpr ⟨m, rfl, hm⟩)⟩

/-! ### Texts -/

/-- The text of a plan of one relation. -/
def planRelText (s : String) : String := "\x7b\"rel\": " ++ s ++ "\x7d"

lemma ofText_planRelText (h : Raw.ofText s = (v, true)) :
    Raw.ofText (planRelText s) = (.object [(some "rel", v)] true, true) := by
  have htext : planRelText s = Raw.objectText [("rel", s)] := by
    rw [← String.toList_inj]
    simp [planRelText, Raw.objectText, Raw.memberChars, Raw.laterChars, stringChars, escapedChar]
  rw [htext]
  exact Raw.ofText_objectText_singleton h

/-- No two members have the same one of the names if none of the names occurs twice. -/
lemma pairwise_of_count_le_one {names : List String}
    (h : ∀ name ∈ names, (members.map Prod.fst).count (some name) ≤ 1) :
    members.Pairwise fun a b => ∀ name ∈ names, a.1 = some name → b.1 ≠ some name := by
  rw [List.pairwise_iff_forall_sublist]
  intro a b hsub name hname ha hb
  have hcount := (hsub.map Prod.fst).count_le (some name)
  simp [ha, hb] at hcount
  have := h name hname
  omega

lemma exists_eq_map_some {α : Type} {l : List (Option α)} (h : none ∉ l) :
    ∃ l' : List α, l = l'.map some := by
  induction l with
  | nil => exact ⟨[], rfl⟩
  | cons o l ih =>
    rw [List.mem_cons, not_or] at h
    obtain ⟨a, rfl⟩ := Option.ne_none_iff_exists'.mp (Ne.symm h.1)
    obtain ⟨l', rfl⟩ := ih h.2
    exact ⟨a :: l', rfl⟩

/-- The text of an object of the given keys that is empty wherever the key is the given one. -/
def repeatingText (name : String) (keys : List String) : String :=
  Raw.objectText (keys.map fun key => (key, if key = name then "\x7b\x7d" else "null"))

/-- The texts are read as the trees that the lemmas above are about. -/
lemma ofText_repeatingText (name : String) (keys : List String) :
    Raw.ofText (repeatingText name keys) = (.object (repeating name keys) true, true) := by
  have hobject : Raw.ofText "\x7b\x7d" = (.object [] true, true) := Raw.ofText_objectText .nil
  have hnull : Raw.ofText "null" = (.null, true) := by cbv
  refine Raw.ofText_objectText ?_
  rw [repeating, List.forall₂_map_left_iff, List.forall₂_map_right_iff, List.forall₂_same]
  intro key _
  refine ⟨rfl, ?_⟩
  dsimp only
  split_ifs
  · exact hobject
  · exact hnull

/-- The objects of the given keys are read as relations exactly as they are read as the relations of
plans, and as the same relations, if and only if no kind of relation is given twice by the keys or
one of them has no text. All other keys may occur several times, and so may all keys further
below. With a kind given twice there are values with which the object is read only inside of a
plan. -/
theorem planRel_reads_rel (keys : List (Option String)) :
    (∀ (s : String) (members : List (Option String × Raw)), members.map Prod.fst = keys →
      Raw.ofText s = (.object members true, true) →
      (Raw.object members true).nesting < Raw.maxDepth →
      ∀ p, ofText .planRel (planRelText s) = .ok p ↔
        ∃ m, p = ⟨[.chosenMessage 1 m]⟩ ∧ ofText .rel s = .ok m) ↔
    none ∈ keys ∨ ∀ name ∈ MessageType.rel.jsonNames, keys.count (some name) ≤ 1 := by
  constructor
  · intro h
    by_contra hkeys
    obtain ⟨hnone, hcount⟩ := not_or.mp hkeys
    simp only [not_forall, Nat.not_le] at hcount
    obtain ⟨name, hname, hcount⟩ := hcount
    -- The keys have texts, so an object of them with such values can be written.
    obtain ⟨keys, rfl⟩ := exists_eq_map_some hnone
    rw [List.count_map_of_injective _ some (Option.some_injective _)] at hcount
    obtain ⟨p, hp⟩ := exists_planRel_of_repeated hname hcount
    have hs := ofText_repeatingText name keys
    obtain ⟨m, -, hm⟩ := (h _ _ (by simp [repeating]) hs
      (Nat.lt_of_le_of_lt (nesting_repeating_le name keys) (by decide)) p).mp
      ((ofText_eq_ok_iff (ofText_planRelText hs)).mpr hp)
    exact message_rel_repeating_ne_ok hname hcount ((ofText_eq_ok_iff hs).mp hm)
  · rintro hkeys s members rfl hs hnesting p
    simp only [ofText_eq_ok_iff hs, ofText_eq_ok_iff (ofText_planRelText hs)]
    rcases hkeys with hnone | hcount
    · exact message_planRel_iff_of_none_mem hnone
    · exact message_planRel_iff hnesting (pairwise_of_count_le_one hcount)

/-- A read of a table whose names are given twice, with a key that is none and occurs twice. -/
def repeatedNamesText : String :=
  "\x7b\"x\": true, \"read\": \x7b\"namedTable\": " ++
    "\x7b\"names\": [\"t\"], \"names\": [\"u\"]\x7d\x7d, \"x\": false\x7d"

/-- The last names count in both places. -/
theorem planRel_reads_rel_repeated_names :
    ofText .planRel (planRelText repeatedNamesText) = .ok ⟨[.chosenMessage 1 ⟨[.chosenMessage 1
      ⟨[.message none, .message none, .chosenMessage 7 ⟨[.strings ["u"]]⟩]⟩]⟩]⟩ := by
  have hs : Raw.ofText repeatedNamesText = (.object [(some "x", .bool true),
      (some "read", .object [(some "namedTable", .object [
        (some "names", .array [.string (some "t")] true),
        (some "names", .array [.string (some "u")] true)] true)] true),
      (some "x", .bool false)] true, true) := by cbv
  have hm : ofText .rel repeatedNamesText = .ok ⟨[.chosenMessage 1
      ⟨[.message none, .message none, .chosenMessage 7 ⟨[.strings ["u"]]⟩]⟩]⟩ := by
    rw [ofText, hs]
    rfl
  have hread := (planRel_reads_rel [some "x", some "read", some "x"]).mpr (.inr (by decide +kernel))
  exact (hread _ _ rfl hs (by decide) _).mpr ⟨_, rfl, hm⟩

/-- A relation of which the kind is given twice. -/
def readTwiceText : String := "\x7b\"read\": \x7b\x7d, \"read\": \x7b\x7d\x7d"

/-- A oneof that is set twice is refused as a relation and not as the relation of a plan. -/
theorem not_planRel_reads_rel_read_twice :
    ofText .rel readTwiceText =
      .error (.shape "oneof members \"read\" and \"read\" are both set") ∧
    ofText .planRel (planRelText readTwiceText) = .ok ⟨[.chosenMessage 1 ⟨[.chosenMessage 1
      ⟨[.message none, .message none, .unset]⟩]⟩]⟩ ∧
    ¬ ∀ (s : String) (members : List (Option String × Raw)),
      Raw.ofText s = (.object members true, true) →
      (Raw.object members true).nesting < Raw.maxDepth →
      ∀ p, ofText .planRel (planRelText s) = .ok p ↔
        ∃ m, p = ⟨[.chosenMessage 1 m]⟩ ∧ ofText .rel s = .ok m := by
  have hs : Raw.ofText readTwiceText =
    (.object [(some "read", .object [] true), (some "read", .object [] true)] true, true) := by cbv
  have hrel : ofText .rel readTwiceText =
      .error (.shape "oneof members \"read\" and \"read\" are both set") := by
    have hmessage : "oneof members " ++ Text.quoted "read" ++ " and " ++ Text.quoted "read" ++
        " are both set" = "oneof members \"read\" and \"read\" are both set" := by decide +kernel
    rw [ofText, hs, ← hmessage]
    rfl
  have hplan : ofText .planRel (planRelText readTwiceText) = .ok ⟨[.chosenMessage 1
      ⟨[.chosenMessage 1 ⟨[.message none, .message none, .unset]⟩]⟩]⟩ := by
    rw [ofText, ofText_planRelText hs]
    rfl
  refine ⟨hrel, hplan, fun h => ?_⟩
  obtain ⟨m, -, hm⟩ := (h _ _ hs (by decide) _).mp hplan
  rw [hrel] at hm
  cases hm

end Message

end PlanImport
