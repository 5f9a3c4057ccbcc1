import PlanImport.Proofs.Binary.Items

/-!
# Messages are read as they are written

The items of a message, merged one after the other into the message of which nothing is given,
make the message again. Each of them belongs to one entry alone, so they are merged slot by slot,
and a message that is nested in a slot is read with one level less to go.
-/

namespace PlanImport

open Schema Wire

/-- A reader for the messages that are nested in a message with so many levels. -/
def Message.mergeNested : Nat → MergeBody
  | 0 => fun _ _ _ => none
  | depth + 1 => mergeBody depth

lemma Message.mergeBody_eq (depth : Nat) (t : MessageType) (m : Message) (body : List UInt8) :
    mergeBody depth t m body = (readItems body).bind fun items =>
      (takeItems (mergeNested depth) depth t.entries [] m.slots items).map .mk := by
  cases depth <;> rfl

/-! ### Merging items -/

/-- Merge items into slots one after the other. -/
def mergeItems (merge : MergeBody) (skip : Bool) (entries : List Entry) (slots : List Slot)
    (items : List (Nat × Payload)) : Option (List Slot) :=
  items.foldlM (fun slots item => Slot.mergeAt merge skip item.1 item.2 entries slots) slots

/-- Merge items into one slot one after the other. -/
def Slot.mergeAll (merge : MergeBody) (entry : Entry) (slot : Slot)
    (items : List (Nat × Payload)) : Option Slot :=
  items.foldlM (fun slot item => slot.merge merge item.1 item.2 entry) slot

/-- Without groups, taking items is merging them one after the other. -/
lemma Message.takeItems_value (merge : MergeBody) (depth : Nat) (entries : List Entry)
    (slots : List Slot) (items : List (Nat × Payload)) :
    takeItems merge depth entries [] slots (items.map fun item => .value item.1 item.2) =
      mergeItems merge (depth ≠ 0) entries slots items := by
  induction items generalizing slots with
  | nil => simp [takeItems, mergeItems]
  | cons item items ih =>
    rw [List.map_cons, takeItems, mergeItems, List.foldlM_cons]
    exact congrArg _ (funext fun slots => ih slots)

variable {merge : MergeBody} {skip : Bool} {entry : Entry} {entries : List Entry} {slot : Slot}
  {slots : List Slot} {items : List (Nat × Payload)}

/-- Items of the first entry are merged into the first slot. -/
lemma mergeItems_head (h : ∀ item ∈ items, item.1 ∈ entry.numbers) :
    mergeItems merge skip (entry :: entries) (slot :: slots) items =
      (slot.mergeAll merge entry items).map (· :: slots) := by
  induction items generalizing slot with
  | nil => rfl
  | cons item items ih =>
    obtain ⟨hitem, hitems⟩ := List.forall_mem_cons.mp h
    rw [mergeItems, Slot.mergeAll, List.foldlM_cons, List.foldlM_cons, Slot.mergeAt,
      if_pos (Entry.hasNumber_iff.mpr hitem)]
    cases slot.merge merge item.1 item.2 entry with
    | none => rfl
    | some slot => exact ih hitems

/-- Items of other entries leave the first slot alone. -/
lemma mergeItems_tail (h : ∀ item ∈ items, item.1 ∉ entry.numbers) :
    mergeItems merge skip (entry :: entries) (slot :: slots) items =
      (mergeItems merge skip entries slots items).map (slot :: ·) := by
  induction items generalizing slots with
  | nil => rfl
  | cons item items ih =>
    obtain ⟨hitem, hitems⟩ := List.forall_mem_cons.mp h
    rw [mergeItems, mergeItems, List.foldlM_cons, List.foldlM_cons, Slot.mergeAt,
      if_neg (mt Entry.hasNumber_iff.mp hitem)]
    cases Slot.mergeAt merge skip item.1 item.2 entries slots with
    | none => rfl
    | some slots => exact ih hitems

lemma mergeItems_append (items' : List (Nat × Payload)) :
    mergeItems merge skip entries slots (items ++ items') =
      (mergeItems merge skip entries slots items).bind fun slots =>
        mergeItems merge skip entries slots items' :=
  List.foldlM_append

/-! ### Merging what is written -/

/-- Whether all messages with fewer levels are read back. -/
def ReadsBack (merge : MergeBody) (depth : Nat) : Prop :=
  ∀ t m, m.HasType t → m.nesting < depth → (m.encode t).length < 2 ^ 64 →
    merge t (.empty t) (m.encode t) = some m

variable {depth : Nat} {number : Nat} {name : String}

/-- Messages of a list are put behind those that have been read before. -/
lemma Slot.mergeAll_messages {t : MessageType} {ms : List Message}
    (h : ∀ m ∈ ms, merge t (.empty t) (m.encode t) = some m) (before : List Message) :
    Slot.mergeAll merge (.field ⟨number, name, .messages t⟩) (.messages before)
        (ms.map fun m => (number, .bytes (m.encode t))) = some (.messages (before ++ ms)) := by
  induction ms generalizing before with
  | nil => simp [Slot.mergeAll]
  | cons m ms ih =>
    obtain ⟨hm, hms⟩ := List.forall_mem_cons.mp h
    rw [List.map_cons, Slot.mergeAll, List.foldlM_cons, Slot.merge, hm]
    refine (ih hms (before ++ [m])).trans ?_
    rw [List.append_assoc, List.singleton_append]

/-- Strings of a list are put behind those that have been read before. -/
lemma Slot.mergeAll_strings (ss before : List String) :
    Slot.mergeAll merge (.field ⟨number, name, .strings⟩) (.strings before)
        (ss.map fun s => (number, (Scalar.string s).payload)) =
      some (.strings (before ++ ss)) := by
  induction ss generalizing before with
  | nil => simp [Slot.mergeAll]
  | cons s ss ih =>
    rw [List.map_cons, Slot.mergeAll, List.foldlM_cons, Slot.merge,
      Scalar.ofPayload?_payload (s := .string s) rfl]
    refine (ih (before ++ [s])).trans ?_
    rw [List.append_assoc, List.singleton_append]

lemma find?_of_scalarMember? {members : List Member} {n : Nat} {type : ScalarType}
    (h : scalarMember? members n = some type) :
    ∃ k name, members.find? (·.number = n) = some ⟨k, name, .scalar type⟩ := by
  unfold scalarMember? at h
  split at h
  · next hfind =>
    cases h
    exact ⟨_, _, hfind⟩
  · cases h

lemma find?_of_messageMember? {members : List Member} {n : Nat} {t : MessageType}
    (h : messageMember? members n = some t) :
    ∃ k name, members.find? (·.number = n) = some ⟨k, name, .message t⟩ := by
  unfold messageMember? at h
  split at h
  · next hfind =>
    cases h
    exact ⟨_, _, hfind⟩
  · cases h

/-- The items of a slot, merged into the empty slot, make it again. -/
lemma Slot.mergeAll_items (hread : ReadsBack merge depth) (hslot : slot.Fills entry)
    (hnesting : slot.nesting ≤ depth) (hsize : (slot.encode entry).length < 2 ^ 64) :
    (Slot.empty entry).mergeAll merge entry (slot.items entry) = some slot := by
  rw [Slot.encode_eq] at hsize
  -- The bodies of nested messages are no longer than the whole, so they are read back too.
  have hbody {n : Nat} {bs : List UInt8} (h : (n, .bytes bs) ∈ slot.items entry) :
      bs.length < 2 ^ 64 :=
    ((Payload.length_le_length_encode n bs).trans (length_encode_le_of_mem h)).trans_lt hsize
  rcases entry with ⟨number, name, type | t | t | _⟩ | members
  · obtain ⟨s, rfl, hs⟩ := fills_scalar_iff.mp hslot
    rw [Slot.items, Slot.empty]
    split_ifs with hdefault
    · rw [hdefault]
      rfl
    · simp [Slot.mergeAll, Slot.merge, Scalar.ofPayload?_payload hs]
  · rcases fills_message_iff.mp hslot with rfl | ⟨m, rfl, hm⟩
    · rfl
    · have hback := hread t m hm hnesting (hbody (List.mem_singleton.mpr rfl))
      simp [Slot.items, Slot.empty, Slot.mergeAll, Slot.merge, hback]
  · obtain ⟨ms, rfl, hms⟩ := fills_messages_iff.mp hslot
    rw [Slot.nesting, messagesNesting_le_iff] at hnesting
    exact Slot.mergeAll_messages (fun m hm => hread t m (hms m hm) (hnesting m hm)
      (hbody (List.mem_map_of_mem hm))) []
  · obtain ⟨ss, rfl⟩ := fills_strings_iff.mp hslot
    exact Slot.mergeAll_strings ss []
  · rcases fills_oneof_iff.mp hslot with rfl | ⟨n, s, type, rfl, hn, hs⟩ | ⟨n, m, t, rfl, hn, hm⟩
    · rfl
    · obtain ⟨k, name, hfind⟩ := find?_of_scalarMember? hn
      simp [Slot.items, Slot.empty, Slot.mergeAll, Slot.merge, hfind, Scalar.ofPayload?_payload hs]
    · obtain ⟨k, name, hfind⟩ := find?_of_messageMember? hn
      have hitems : Slot.items (.oneof members) (.chosenMessage n m) =
          [(n, .bytes (m.encode t))] := by
        rw [Slot.items, hn]
      have hback := hread t m hm hnesting (hbody (hitems ▸ List.mem_singleton.mpr rfl))
      simp [hitems, Slot.empty, Slot.mergeAll, Slot.merge, hfind, hback]

/-- The items of slots, merged into empty slots, make them again. -/
lemma mergeItems_items (hread : ReadsBack merge depth) (hslots : SlotsFill entries slots)
    (hnumbers : (entries.flatMap Entry.numbers).Pairwise (· < ·))
    (hnesting : slotsNesting slots ≤ depth)
    (hsize : (encodeSlots entries slots).length < 2 ^ 64) :
    mergeItems merge skip entries (entries.map Slot.empty)
        ((entries.zip slots).flatMap fun (entry, slot) => slot.items entry) = some slots := by
  induction entries generalizing slots with
  | nil =>
    rw [slotsFill_nil.mp hslots]
    rfl
  | cons entry entries ih =>
    obtain ⟨slot, slots, rfl, hslot, hrest⟩ := slotsFill_cons.mp hslots
    rw [List.flatMap_cons, List.pairwise_append] at hnumbers
    obtain ⟨-, hlater, hlt⟩ := hnumbers
    rw [slotsNesting, Nat.max_le] at hnesting
    rw [encodeSlots, List.length_append] at hsize
    obtain ⟨number, hnumber⟩ := Slot.exists_number_of_fills hslot
    -- The items of later entries have greater numbers and leave the first slot alone.
    have hothers : ∀ item ∈ (entries.zip slots).flatMap fun (entry, slot) => slot.items entry,
        item.1 ∉ entry.numbers := by
      intro item hitem hmem
      exact (hlt _ hmem _ ((pairwise_items hrest hlater).2 item hitem)).false
    rw [List.map_cons, List.zip_cons_cons, List.flatMap_cons, mergeItems_append,
      mergeItems_head fun item hitem => (hnumber item hitem).1 ▸ (hnumber item hitem).2,
      Slot.mergeAll_items hread hslot hnesting.1 (by omega), Option.map_some, Option.bind_some,
      mergeItems_tail hothers, ih hrest hlater hnesting.2 (by omega), Option.map_some]

namespace Message

variable {t : MessageType} {m : Message}

/-- A message is read back if no more messages are nested in it than may be opened. -/
lemma mergeBody_encode (hm : m.HasType t) (hnesting : m.nesting ≤ depth)
    (hsize : (m.encode t).length < 2 ^ 64) :
    mergeBody depth t (.empty t) (m.encode t) = some m := by
  induction depth using Nat.strong_induction_on generalizing t m with
  | _ depth ih =>
    -- A nested message is read with one level less.
    have hread : ReadsBack (mergeNested depth) depth := by
      intro t' m' hm' hnesting' hsize'
      cases depth with
      | zero => cases hnesting'
      | succ depth => exact ih depth (Nat.lt_succ_self depth) hm' (Nat.le_of_lt_succ hnesting') hsize'
    obtain ⟨slots⟩ := m
    rw [mergeBody_eq, readItems_encode hm hsize, Option.bind_some, takeItems_value]
    exact congrArg (Option.map Message.mk)
      (mergeItems_items hread hm t.pairwise_numbers hnesting hsize)

end Message

end PlanImport
