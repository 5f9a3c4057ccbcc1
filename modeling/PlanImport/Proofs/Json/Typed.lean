import PlanImport.Proofs.Json.Edits
import PlanImport.Proofs.Message.Typed

/-!
# Messages from JSON are of their kind

Whatever a value is read as has the type that it is read as, so a message that is read from a text
or from a known value has a slot for each entry of its kind, filled with a value of the type of the
entry.
-/

namespace PlanImport

open Schema

variable {ε : Type}

/-! ### Values -/

/-- Whether all that a value can be read as is of the type that it is read as. -/
structure Reading.Typed (v : Reading ε) : Prop where
  scalar : ∀ type s, v.scalar type = .ok s → s.HasType type
  message : ∀ t m, v.message t = .ok m → m.HasType t
  messages : ∀ t ms, v.messages t = .ok ms → ∀ m ∈ ms, m.HasType t

/-- Whether a member of an object is typed, read now or later. -/
structure MemberReading.Typed (r : MemberReading ε) : Prop where
  value : r.value.Typed
  later : ∀ v, r.later = .ok v → v.Typed

variable {t : MessageType} {entries : List Entry} {members : List Member} {m : Member} {f : Field}
  {slot : Slot} {slots : List Slot} {message : Message} {v : Reading ε} {vs : List (Reading ε)}
  {rs : List (MemberReading ε)}

/-- The member of a number is the one that is found by it. -/
lemma find?_number_eq_some (hmembers : .oneof members ∈ t.entries) (hm : m ∈ members) :
    members.find? (·.number = m.number) = some m := by
  have hnumbers : (members.map (·.number)).Pairwise (· < ·) :=
    (List.pairwise_flatMap.mp t.pairwise_numbers).1 _ hmembers
  exact (find?_eq_some_iff_of_nodup_map (hnumbers.imp Nat.ne_of_lt)).mpr ⟨hm, rfl⟩

namespace Reading

/-- A field of a typed value is filled with a value of the type of the field. -/
lemma Typed.field (h : v.Typed) (hslot : v.field f.type = .ok slot) : slot.Fills (.field f) := by
  rcases f with ⟨number, name, type | t | t | _⟩
  · obtain ⟨s, hs, rfl⟩ := map_eq_ok.mp hslot
    exact Slot.fills_scalar_iff.mpr ⟨s, rfl, h.scalar type s hs⟩
  · rw [Reading.field] at hslot
    split_ifs at hslot
    · cases hslot
      exact Slot.fills_message_iff.mpr (.inl rfl)
    · obtain ⟨m, hm, rfl⟩ := map_eq_ok.mp hslot
      exact Slot.fills_message_iff.mpr (.inr ⟨m, rfl, h.message t m hm⟩)
  · obtain ⟨ms, hms, rfl⟩ := map_eq_ok.mp hslot
    exact Slot.fills_messages_iff.mpr ⟨ms, rfl, h.messages t ms hms⟩
  · obtain ⟨ss, -, rfl⟩ := map_eq_ok.mp hslot
    exact Slot.fills_strings_iff.mpr ⟨ss, rfl⟩

/-- A member of a typed value fills its oneof. -/
lemma Typed.member (h : v.Typed) (hmembers : .oneof members ∈ t.entries) (hm : m ∈ members)
    (hslot : v.member m = .ok slot) : slot.Fills (.oneof members) := by
  have hfind := find?_number_eq_some hmembers hm
  rw [Slot.fills_oneof_iff]
  rcases m with ⟨number, name, type | t⟩
  · obtain ⟨s, hs, rfl⟩ := map_eq_ok.mp hslot
    exact .inr (.inl ⟨number, s, type, rfl, by rw [scalarMember?, hfind], h.scalar type s hs⟩)
  · obtain ⟨m, hm, rfl⟩ := map_eq_ok.mp hslot
    exact .inr (.inr ⟨number, m, t, rfl, by rw [messageMember?, hfind], h.message t m hm⟩)

/-! ### Containers -/

lemma Typed.mapM {ms : List Message} (h : ∀ v ∈ vs, v.Typed)
    (hms : vs.mapM (·.message t) = .ok ms) : ∀ m ∈ ms, m.HasType t := by
  intro m hm
  obtain ⟨v, hv, hmessage⟩ := exists_of_mem_mapM hms m hm
  exact (h v hv).message t m hmessage

/-- The items of an array fill the entries in their order. -/
lemma slotsFill_ofItems {extra : Except ε Unit} (h : ∀ v ∈ vs, v.Typed)
    (hslots : ofItems extra entries vs = .ok slots) : SlotsFill entries slots := by
  fun_induction ofItems extra entries vs generalizing slots with
  | case1 =>
    cases hslots
    exact slotsFill_nil.mpr rfl
  | case2 =>
    obtain ⟨_, -, hslots⟩ := bind_eq_ok.mp hslots
    cases hslots
    exact slotsFill_nil.mpr rfl
  | case3 entry entries =>
    cases hslots
    exact slotsFill_empty (entry :: entries)
  | case4 entries f v rest ih =>
    rw [List.forall_mem_cons] at h
    obtain ⟨slot, hslot, hslots⟩ := bind_eq_ok.mp hslots
    obtain ⟨slots', hslots', heq⟩ := bind_eq_ok.mp hslots
    cases heq
    exact slotsFill_cons.mpr ⟨slot, slots', rfl, h.1.field hslot, ih h.2 hslots'⟩
  | case5 entry entries v rest _ ih =>
    rw [List.forall_mem_cons] at h
    obtain ⟨slots', hslots', heq⟩ := bind_eq_ok.mp hslots
    cases heq
    exact slotsFill_cons.mpr ⟨_, slots', rfl, Slot.fills_empty entry, ih h.2 hslots'⟩

lemma slotsFill_of_forall₂ (h : List.Forall₂ (fun entry slot => slot.Fills entry) entries slots) :
    SlotsFill entries slots := by
  induction h with
  | nil => exact slotsFill_nil.mpr rfl
  | cons hslot _ ih => exact slotsFill_cons.mpr ⟨_, _, rfl, hslot, ih⟩

/-- A oneof is filled with one of its members or not at all. -/
lemma fills_oneof (h : ∀ r ∈ rs, r.Typed) (hmembers : .oneof members ∈ t.entries)
    (hslot : oneof members (rs.filterMap (kept? t.entries)) = .ok slot) :
    slot.Fills (.oneof members) := by
  unfold oneof at hslot
  split at hslot
  · cases hslot
    exact Slot.fills_oneof_iff.mpr (.inl rfl)
  · next key m v hgiven =>
    have hmem : (key, m, v) ∈ given members (rs.filterMap (kept? t.entries)) :=
      hgiven ▸ List.mem_cons_self
    obtain ⟨hm, -, r, hr, -, hlater, -⟩ := (mem_given_iff hmembers).mp hmem
    exact ((h r hr).later v hlater).member hmembers hm (mapError_eq_ok.mp hslot)
  · cases hslot

/-- The members of an object fill the entries of a message. -/
lemma hasType_ofMembers {raise : String → ε} {finish : Except ε Unit} (h : ∀ r ∈ rs, r.Typed)
    (hmessage : ofMembers raise finish t rs = .ok message) : message.HasType t := by
  obtain ⟨-, slots, others, hfill, hslots⟩ := ofMembers_eq_ok_iff_fill.mp hmessage
  have hlength := length_of_fillFields (List.length_map _) hfill
  obtain ⟨slots'⟩ := message
  refine slotsFill_of_forall₂ ?_
  rw [fillOneofs_eq_ok_iff hlength] at hslots
  have hentry : ∀ p ∈ t.entries.zip slots, ∀ slot, EndsAs others p slot → slot.Fills p.1 := by
    rintro ⟨entry, slot'⟩ hp slot hslot
    obtain ⟨i, hi⟩ := List.mem_iff_getElem?.mp hp
    obtain ⟨hentry, hslot'⟩ : t.entries[i]? = some entry ∧ slots[i]? = some slot' :=
      List.getElem?_zip_eq_some.mp hi
    cases entry with
    | field f =>
      -- A field holds what was read for it, or it is empty as in the beginning.
      obtain rfl : slot' = slot := hslot
      rcases getElem?_of_fillFields (List.length_map _) hfill i with
        ⟨r, hr, key, type, read, -, hfield, hread, hplace⟩ | ⟨-, hplace⟩
      · obtain ⟨f', hf', -, rfl⟩ := exists_of_field?_eq_some hfield
        rw [hentry] at hf'
        cases hf'
        rw [hslot'] at hplace
        cases hplace
        exact (h r hr).value.field hread
      · rw [hslot', List.getElem?_map, hentry] at hplace
        cases hplace
        exact Slot.fills_empty (.field f)
    | oneof members =>
      have hmem := List.mem_iff_getElem?.mpr ⟨i, hentry⟩
      have hone : t.hasOneof = true := List.any_eq_true.mpr ⟨_, hmem, rfl⟩
      rw [hone] at hfill
      rw [others_of_fillFields hfill] at hslot
      exact fills_oneof h hmem hslot
  exact (forall₂_zip_iff hlength).mp (forall₂_imp_of_mem hentry hslots)

end Reading

/-! ### Known values -/

/-- Each reader of scalars gives values of its own type. -/
lemma Scalar.hasType_ofJson {type : ScalarType} {j : Json} {s : Scalar}
    (h : Scalar.ofJson type j = .ok s) : s.HasType type := by
  unfold Scalar.ofJson at h
  split at h
  · split at h
    · cases h
      rfl
    · cases h
  all_goals try
    obtain ⟨_, -, rfl⟩ := map_eq_ok.mp h
    simp [Scalar.HasType]
  split at h
  · cases h
  · split at h
    · cases h
      rfl
    · cases h

namespace Json

lemma typed_leafReading (j : Json) : j.leafReading.Typed where
  scalar _ _ := Scalar.hasType_ofJson
  message := nofun
  messages := nofun

/-- The items of a known array are typed, and so is the array as a list and as a message. -/
lemma typed_arrayReading {vs : List (Reading String)} (h : ∀ v ∈ vs, v.Typed) :
    (arrayReading vs).Typed where
  scalar := (typed_leafReading (.array [])).scalar
  message t m hm := by
    simp only [arrayReading] at hm
    split_ifs at hm
    obtain ⟨slots, hslots, rfl⟩ := map_eq_ok.mp hm
    exact Reading.slotsFill_ofItems h hslots
  messages _ _ := Reading.Typed.mapM h

lemma typed_objectReading {rs : List (MemberReading String)} (h : ∀ r ∈ rs, r.Typed) :
    (objectReading rs).Typed where
  scalar := (typed_leafReading (.object [])).scalar
  message _ _ := Reading.hasType_ofMembers h
  messages := nofun

mutual

/-- Whatever a known value is read as is of its type. -/
lemma typed_reading (j : Json) : j.reading.Typed := by
  match j with
  | .null | .bool _ | .number _ | .string _ => exact typed_leafReading _
  | .array items => exact typed_arrayReading (typed_itemReadings items)
  | .object members => exact typed_objectReading (typed_memberReadings members)

lemma typed_itemReadings (items : List Json) : ∀ v ∈ itemReadings items, v.Typed := by
  match items with
  | [] => simp [itemReadings]
  | j :: items => exact List.forall_mem_cons.mpr ⟨typed_reading j, typed_itemReadings items⟩

lemma typed_memberReadings (members : List (String × Json)) :
    ∀ r ∈ memberReadings members, r.Typed := by
  match members with
  | [] => simp [memberReadings]
  | (key, j) :: members =>
    have hj := typed_reading j
    refine List.forall_mem_cons.mpr ⟨⟨hj, fun v hv => ?_⟩, typed_memberReadings members⟩
    cases hv
    exact hj

end

/-! ### Texts -/

namespace Raw

lemma typed_leafReading (isNull : Bool) (j : Except JsonFault Json) :
    (leafReading isNull j).Typed where
  scalar type s h := by
    obtain ⟨j, -, h⟩ := bind_eq_ok.mp h
    exact Scalar.hasType_ofJson (mapError_eq_ok.mp h)
  message t m h := by
    obtain ⟨j, -, h⟩ := bind_eq_ok.mp h
    cases h
  messages t ms h := by
    obtain ⟨j, -, h⟩ := bind_eq_ok.mp h
    cases h

variable {depth : Nat} {closed : Bool}

/-- The same for an array of a text. -/
lemma typed_arrayReading {vs : List (Reading JsonFault)} (h : ∀ v ∈ vs, v.Typed) :
    (arrayReading depth closed vs).Typed where
  scalar := (typed_leafReading false (.ok (.array []))).scalar
  message t m hm := by
    simp only [arrayReading] at hm
    split_ifs at hm
    simp only [bind_eq_ok] at hm
    obtain ⟨-, -, slots, hslots, -, -, heq⟩ := hm
    cases heq
    exact Reading.slotsFill_ofItems h hslots
  messages t ms hms := by
    simp only [arrayReading, bind_eq_ok] at hms
    obtain ⟨-, -, ms', hms', -, -, heq⟩ := hms
    cases heq
    exact Reading.Typed.mapM h hms'

lemma typed_objectReading {rs : List (MemberReading JsonFault)} (h : ∀ r ∈ rs, r.Typed) :
    (objectReading depth closed rs).Typed where
  scalar := (typed_leafReading false (.ok (.object []))).scalar
  message t m hm := by
    obtain ⟨-, -, hm⟩ := bind_eq_ok.mp hm
    exact Reading.hasType_ofMembers h hm
  messages := (typed_leafReading false (.ok (.object []))).messages

mutual

/-- Whatever a value of a text is read as is of its type. -/
lemma typed_reading (depth : Nat) (v : Raw) : (v.reading depth).Typed := by
  match v with
  | .null | .bool _ | .number _ | .string _ | .broken => exact typed_leafReading _ _
  | .array items closed => exact typed_arrayReading (typed_itemReadings (depth - 1) items)
  | .object members closed => exact typed_objectReading (typed_memberReadings (depth - 1) members)

lemma typed_itemReadings (depth : Nat) (items : List Raw) :
    ∀ v ∈ itemReadings depth items, v.Typed := by
  match items with
  | [] => simp [itemReadings]
  | v :: items =>
    exact List.forall_mem_cons.mpr ⟨typed_reading depth v, typed_itemReadings depth items⟩

lemma typed_memberReadings (depth : Nat) (members : List (Option String × Raw)) :
    ∀ r ∈ memberReadings depth members, r.Typed := by
  match members with
  | [] => simp [memberReadings]
  | (key, v) :: members =>
    refine List.forall_mem_cons.mpr ⟨⟨typed_reading depth v, fun w hw => ?_⟩,
      typed_memberReadings depth members⟩
    cases hj : v.value? depth with
    | none => simp [hj] at hw
    | some j =>
      rw [hj] at hw
      cases hw
      exact Json.typed_reading j

end

end Raw

end Json

/-- A message that is read from a text is of the kind that it is read as. -/
lemma Message.hasType_ofText {text : String} (h : ofText t text = .ok message) :
    message.HasType t := by
  obtain ⟨m, hm, h⟩ := bind_eq_ok.mp h
  split_ifs at h
  cases h
  exact (Json.Raw.typed_reading Json.Raw.maxDepth _).message t _ hm

end PlanImport
