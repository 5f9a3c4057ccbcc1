import PlanImport.Proofs.Binary.Scalar

/-!
# The items of a message

The bytes of a message are those of its items, one after the other. They are in the order of their
numbers, and an entry has items exactly if its slot is not the empty one: a scalar field that has
its default and a message that is absent have none, while the set member of a oneof has one even
if its value is the default.
-/

namespace PlanImport

open Schema Wire

def Slot.items : Entry → Slot → List (Nat × Payload)
  | .field ⟨number, _, .scalar type⟩, .scalar s =>
    if s = .default type then [] else [(number, s.payload)]
  | .field ⟨number, _, .message t⟩, .message (some m) => [(number, .bytes (m.encode t))]
  | .field ⟨number, _, .messages t⟩, .messages ms => ms.map fun m => (number, .bytes (m.encode t))
  | .field ⟨number, _, .strings⟩, .strings ss => ss.map fun s => (number, (Scalar.string s).payload)
  | _, .chosenScalar number s => [(number, s.payload)]
  | .oneof members, .chosenMessage number m =>
    match messageMember? members number with
    | some t => [(number, .bytes (m.encode t))]
    | none => []
  | _, _ => []

def Message.items (t : MessageType) (m : Message) : List (Nat × Payload) :=
  (t.entries.zip m.slots).flatMap fun (entry, slot) => slot.items entry

/-! ### Bytes -/

def encodeItems (items : List (Nat × Payload)) : List UInt8 :=
  items.flatMap fun item => item.2.encode item.1

@[simp] lemma encodeItems_nil : encodeItems [] = [] := rfl

@[simp] lemma encodeItems_cons (item : Nat × Payload) (items : List (Nat × Payload)) :
    encodeItems (item :: items) = item.2.encode item.1 ++ encodeItems items := rfl

@[simp] lemma encodeItems_append (items items' : List (Nat × Payload)) :
    encodeItems (items ++ items') = encodeItems items ++ encodeItems items' :=
  List.flatMap_append

lemma encodeMessages_eq (number : Nat) (t : MessageType) (ms : List Message) :
    encodeMessages number t ms = encodeItems (ms.map fun m => (number, .bytes (m.encode t))) := by
  induction ms with
  | nil => rfl
  | cons m ms ih => rw [encodeMessages, ih, List.map_cons, encodeItems_cons, nested]

/-- The bytes of a slot are those of its items one after the other. -/
lemma Slot.encode_eq (entry : Entry) (slot : Slot) :
    slot.encode entry = encodeItems (slot.items entry) := by
  rcases slot with s | (_ | m) | ms | ss | _ | ⟨n, s⟩ | ⟨n, m⟩ <;>
    rcases entry with ⟨number, name, type | t | t | _⟩ | members <;>
    simp [Slot.encode, Slot.items, encodeMessages_eq, nested]
  · rw [Scalar.encodeField]
    split_ifs <;> simp
  · simp [encodeItems, List.flatMap_map]
  · cases messageMember? members n <;> simp

/-- The bytes of slots are those of all their items, in the order of the entries. -/
lemma encodeSlots_eq (entries : List Entry) (slots : List Slot) :
    encodeSlots entries slots =
      encodeItems ((entries.zip slots).flatMap fun (entry, slot) => slot.items entry) := by
  induction slots generalizing entries with
  | nil => simp [encodeSlots]
  | cons slot slots ih =>
    cases entries with
    | nil => rfl
    | cons entry entries => simp [encodeSlots, Slot.encode_eq, ih]

/-- The bytes of a message are those of its items. -/
lemma Message.encode_eq (t : MessageType) (m : Message) : m.encode t = encodeItems (m.items t) := by
  obtain ⟨slots⟩ := m
  exact encodeSlots_eq t.entries slots

/-! ### Numbers -/

variable {entry : Entry} {slot : Slot} {t : MessageType} {m : Message}

lemma mem_numbers_of_scalarMember? {members : List Member} {n : Nat} {type : ScalarType}
    (h : scalarMember? members n = some type) : n ∈ (Entry.oneof members).numbers := by
  unfold scalarMember? at h
  split at h
  · next hfind =>
    have hn := List.find?_some hfind
    exact List.mem_map.mpr ⟨_, List.mem_of_find?_eq_some hfind, by simpa using hn⟩
  · cases h

lemma mem_numbers_of_messageMember? {members : List Member} {n : Nat} {t : MessageType}
    (h : messageMember? members n = some t) : n ∈ (Entry.oneof members).numbers := by
  unfold messageMember? at h
  split at h
  · next hfind =>
    have hn := List.find?_some hfind
    exact List.mem_map.mpr ⟨_, List.mem_of_find?_eq_some hfind, by simpa using hn⟩
  · cases h

/-- The items of a slot have the same number, which is one of its entry. -/
lemma Slot.exists_number_of_fills (h : slot.Fills entry) :
    ∃ number, ∀ item ∈ slot.items entry, item.1 = number ∧ number ∈ entry.numbers := by
  rcases entry with ⟨number, name, type | t | t | _⟩ | members
  · obtain ⟨s, rfl, -⟩ := fills_scalar_iff.mp h
    refine ⟨number, ?_⟩
    rw [Slot.items]
    split_ifs <;> simp [Entry.numbers]
  · refine ⟨number, ?_⟩
    rcases fills_message_iff.mp h with rfl | ⟨m, rfl, -⟩ <;> simp [Slot.items, Entry.numbers]
  · obtain ⟨ms, rfl, -⟩ := fills_messages_iff.mp h
    exact ⟨number, by simp [Slot.items, Entry.numbers]⟩
  · obtain ⟨ss, rfl⟩ := fills_strings_iff.mp h
    exact ⟨number, by simp [Slot.items, Entry.numbers]⟩
  · rcases fills_oneof_iff.mp h with rfl | ⟨n, s, type, rfl, hn, -⟩ | ⟨n, m, t, rfl, hn, -⟩
    · exact ⟨0, by simp [Slot.items]⟩
    · exact ⟨n, by simp [Slot.items, mem_numbers_of_scalarMember? hn]⟩
    · exact ⟨n, by simp [Slot.items, hn, mem_numbers_of_messageMember? hn]⟩

/-- The items of slots are in the order of their numbers. -/
lemma pairwise_items {entries : List Entry} {slots : List Slot} (h : SlotsFill entries slots)
    (hnumbers : (entries.flatMap Entry.numbers).Pairwise (· < ·)) :
    ((entries.zip slots).flatMap fun (entry, slot) => slot.items entry).Pairwise
        (fun a b => a.1 ≤ b.1) ∧
      ∀ item ∈ (entries.zip slots).flatMap fun (entry, slot) => slot.items entry,
        item.1 ∈ entries.flatMap Entry.numbers := by
  induction entries generalizing slots with
  | nil => simp
  | cons entry entries ih =>
    obtain ⟨slot, slots, rfl, hslot, hslots⟩ := slotsFill_cons.mp h
    obtain ⟨number, hitems⟩ := Slot.exists_number_of_fills hslot
    rw [List.flatMap_cons, List.pairwise_append] at hnumbers
    obtain ⟨-, hrest, hlt⟩ := hnumbers
    obtain ⟨hsorted, hmem⟩ := ih hslots hrest
    rw [List.zip_cons_cons, List.flatMap_cons]
    constructor
    · refine List.pairwise_append.mpr ⟨?_, hsorted, ?_⟩
      · refine List.pairwise_of_forall_mem_list fun a ha b hb => ?_
        rw [(hitems a ha).1, (hitems b hb).1]
      · intro a ha b hb
        have hnumber := hitems a ha
        rw [hnumber.1]
        exact (hlt number hnumber.2 b.1 (hmem b hb)).le
    · intro item hitem
      rw [List.flatMap_cons]
      rcases List.mem_append.mp hitem with hhead | htail
      · have hnumber := hitems item hhead
        exact List.mem_append_left _ (hnumber.1 ▸ hnumber.2)
      · exact List.mem_append_right _ (hmem item htail)

/-- A slot has no items exactly if it is the empty one of its entry. -/
lemma Slot.items_eq_nil_iff (h : slot.Fills entry) :
    slot.items entry = [] ↔ slot = Slot.empty entry := by
  rcases entry with ⟨number, name, type | t | t | _⟩ | members
  · obtain ⟨s, rfl, -⟩ := fills_scalar_iff.mp h
    simp [Slot.items, Slot.empty]
  · rcases fills_message_iff.mp h with rfl | ⟨m, rfl, -⟩ <;> simp [Slot.items, Slot.empty]
  · obtain ⟨ms, rfl, -⟩ := fills_messages_iff.mp h
    simp [Slot.items, Slot.empty]
  · obtain ⟨ss, rfl⟩ := fills_strings_iff.mp h
    simp [Slot.items, Slot.empty]
  · rcases fills_oneof_iff.mp h with rfl | ⟨n, s, type, rfl, -, -⟩ | ⟨n, m, t, rfl, hn, -⟩
    · simp [Slot.items, Slot.empty]
    · simp [Slot.items, Slot.empty]
    · simp [Slot.items, Slot.empty, hn]

/-! ### Items that can be read -/

lemma Payload.length_le_length_encode (number : Nat) (bs : List UInt8) :
    bs.length ≤ ((Payload.bytes bs).encode number).length := by
  rw [Payload.encode, List.length_append]
  omega

/-- What is shorter than `2 ^ 64` bytes has a length that can be written in front of it. -/
lemma Scalar.fits_payload {s : Scalar} {number : Nat}
    (h : (s.payload.encode number).length < 2 ^ 64) : s.payload.Fits := by
  cases s with
  | bool b => cases b <;> simp [Scalar.payload, Payload.Fits]
  | int32 n => exact ofSigned_lt _
  | int64 n => exact ofSigned_lt _
  | enumeration n => exact ofSigned_lt _
  | uint32 n => exact Nat.lt_trans n.toNat_lt (by decide)
  | float bits => exact bits.toNat_lt
  | double bits => exact bits.toNat_lt
  | string s => exact Nat.lt_of_le_of_lt (Payload.length_le_length_encode number _) h
  | bytes bs => exact Nat.lt_of_le_of_lt (Payload.length_le_length_encode number _) h

/-- A payload of a slot is that of a scalar or the bytes of a message. -/
lemma Slot.payload_of_mem_items {item : Nat × Payload} (h : item ∈ slot.items entry) :
    (∃ s : Scalar, item.2 = s.payload) ∨ ∃ bs, item.2 = .bytes bs := by
  unfold Slot.items at h
  split at h
  · split_ifs at h
    · cases h
    · exact .inl ⟨_, by rw [List.mem_singleton.mp h]⟩
  · exact .inr ⟨_, by rw [List.mem_singleton.mp h]⟩
  · obtain ⟨m, -, rfl⟩ := List.mem_map.mp h
    exact .inr ⟨_, rfl⟩
  · obtain ⟨s, -, rfl⟩ := List.mem_map.mp h
    exact .inl ⟨.string s, rfl⟩
  · exact .inl ⟨_, by rw [List.mem_singleton.mp h]⟩
  · split at h
    · exact .inr ⟨_, by rw [List.mem_singleton.mp h]⟩
    · cases h
  · cases h

lemma length_encode_le_of_mem {item : Nat × Payload} {items : List (Nat × Payload)}
    (h : item ∈ items) : (item.2.encode item.1).length ≤ (encodeItems items).length := by
  obtain ⟨before, after, rfl⟩ := List.append_of_mem h
  simp only [encodeItems_append, encodeItems_cons, List.length_append]
  omega

/-- Messages whose bytes can be counted have items that are accepted. -/
lemma Message.fits_of_mem_items (hm : m.HasType t) (hsize : (m.encode t).length < 2 ^ 64) :
    ∀ item ∈ m.items t, IsFieldNumber item.1 ∧ item.2.Fits := by
  intro item hitem
  obtain ⟨slots⟩ := m
  rw [Message.encode_eq] at hsize
  have hlength := Nat.lt_of_le_of_lt (length_encode_le_of_mem hitem) hsize
  constructor
  · exact t.isFieldNumber _ ((pairwise_items hm t.pairwise_numbers).2 item hitem)
  · obtain ⟨⟨entry, slot⟩, -, hslot⟩ := List.mem_flatMap.mp hitem
    rcases Slot.payload_of_mem_items hslot with ⟨s, hs⟩ | ⟨bs, hbs⟩
    · rw [hs] at hlength ⊢
      exact Scalar.fits_payload hlength
    · rw [hbs] at hlength ⊢
      exact Nat.lt_of_le_of_lt (Payload.length_le_length_encode item.1 bs) hlength

/-- The items of a message are read from its bytes. -/
lemma Message.readItems_encode (hm : m.HasType t) (hsize : (m.encode t).length < 2 ^ 64) :
    readItems (m.encode t) = some ((m.items t).map fun item => .value item.1 item.2) := by
  rw [Message.encode_eq]
  exact readItems_flatMap_encode (m.fits_of_mem_items hm hsize)

end PlanImport
