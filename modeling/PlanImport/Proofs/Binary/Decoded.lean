import PlanImport.Proofs.Binary.RoundTrip

/-!
# What is read

Whatever bytes a message is read from, it is one of its kind, it nests no deeper than the reader
goes, and it takes at most twice as many bytes when it is written again. A reader that may go
deeper reads the same message.
-/

namespace PlanImport

open Schema Wire

variable {merge merge' : MergeBody} {entry : Entry} {entries : List Entry} {slot slot' : Slot}
  {slots slots' : List Slot} {depth depth' size number : Nat} {name : String} {payload : Payload}
  {t : MessageType} {m m' : Message}

/-! ### Bounds -/

/-- Whether a message is of a kind, nests at most so deeply and takes at most so many bytes. -/
structure Message.Within (t : MessageType) (depth size : Nat) (m : Message) : Prop where
  hasType : m.HasType t
  nesting_le : m.nesting ≤ depth
  length_le : (m.encode t).length ≤ size

structure Slot.Within (entry : Entry) (depth size : Nat) (slot : Slot) : Prop where
  fills : slot.Fills entry
  nesting_le : slot.nesting ≤ depth
  length_le : (slot.encode entry).length ≤ size

structure SlotsWithin (entries : List Entry) (depth size : Nat) (slots : List Slot) : Prop where
  fill : SlotsFill entries slots
  nesting_le : slotsNesting slots ≤ depth
  length_le : (encodeSlots entries slots).length ≤ size

lemma SlotsWithin.head (h : SlotsWithin (entry :: entries) depth size (slot :: slots)) :
    slot.Within entry depth (slot.encode entry).length := by
  obtain ⟨_, _, hcons, hslot, -⟩ := slotsFill_cons.mp h.fill
  cases hcons
  exact ⟨hslot, (Nat.max_le.mp h.nesting_le).1, le_rfl⟩

lemma SlotsWithin.tail (h : SlotsWithin (entry :: entries) depth size (slot :: slots)) :
    SlotsWithin entries depth (encodeSlots entries slots).length slots := by
  obtain ⟨_, _, hcons, -, hslots⟩ := slotsFill_cons.mp h.fill
  cases hcons
  exact ⟨hslots, (Nat.max_le.mp h.nesting_le).2, le_rfl⟩

/-- The bounds on the sizes of the slots add up. -/
lemma Slot.Within.cons {first rest : Nat} (hslot : slot.Within entry depth first)
    (hslots : SlotsWithin entries depth rest slots) (hsize : first + rest ≤ size) :
    SlotsWithin (entry :: entries) depth size (slot :: slots) where
  fill := slotsFill_cons.mpr ⟨slot, slots, rfl, hslot.fills, hslots.fill⟩
  nesting_le := Nat.max_le.mpr ⟨hslot.nesting_le, hslots.nesting_le⟩
  length_le := by
    have := hslot.length_le
    have := hslots.length_le
    rw [encodeSlots, List.length_append]
    omega

lemma Slot.encode_empty (entry : Entry) : (Slot.empty entry).encode entry = [] := by
  rw [Slot.encode_eq, (Slot.items_eq_nil_iff (Slot.fills_empty entry)).mpr rfl, encodeItems_nil]

lemma encodeSlots_empty (entries : List Entry) :
    encodeSlots entries (entries.map Slot.empty) = [] := by
  induction entries with
  | nil => rfl
  | cons entry entries ih => rw [List.map_cons, encodeSlots, Slot.encode_empty, ih, List.append_nil]

lemma Message.within_empty (t : MessageType) (depth : Nat) : (empty t).Within t depth 0 where
  hasType := hasType_empty t
  nesting_le := by simp
  length_le := (congrArg List.length (encodeSlots_empty t.entries)).le

/-! ### One value -/

/-- Whether what is read stays within the bounds, of which the number of bytes grows by twice that
of the bytes that are read. -/
def KeepsWithin (merge : MergeBody) (depth : Nat) : Prop :=
  ∀ t m body m', merge t m body = some m' → 0 < depth ∧
    ∀ size, m.Within t (depth - 1) size → m'.Within t (depth - 1) (size + 2 * body.length)

/-- A nested message grows with what is nested. -/
lemma length_nested_le {body old bs : List UInt8} (h : body.length ≤ old.length + 2 * bs.length) :
    (nested number body).length ≤ (nested number old).length + 2 * (nested number bs).length := by
  have hprefix : (varint body.length).length ≤
      (varint old.length).length + 2 * (varint bs.length).length := by
    have hmono := length_varint_mono h
    have hsum := length_varint_add_le old.length (2 * bs.length)
    have htwice := length_varint_add_le bs.length bs.length
    rw [← Nat.two_mul] at htwice
    omega
  simp only [nested, Payload.encode, List.length_append]
  omega

/-- A message that is read from its bytes alone takes at most twice as many, the key and the length
in front of it included. -/
lemma length_nested_le_of_empty {body bs : List UInt8} (h : body.length ≤ 2 * bs.length) :
    (nested number body).length ≤ 2 * (nested number bs).length := by
  have hprefix : (varint body.length).length ≤ 2 * (varint bs.length).length := by
    have hmono := length_varint_mono h
    have htwice := length_varint_add_le bs.length bs.length
    rw [← Nat.two_mul] at htwice
    omega
  simp only [nested, Payload.encode, List.length_append]
  omega

/-- A message that is read where there was none. -/
lemma KeepsWithin.of_empty (number : Nat) (hmerge : KeepsWithin merge depth) {body : List UInt8}
    (h : merge t (.empty t) body = some m') :
    m'.HasType t ∧ m'.nesting < depth ∧ (nested number (m'.encode t)).length ≤
      2 * ((Payload.bytes body).encode number).length := by
  obtain ⟨hpos, hkeeps⟩ := hmerge t _ body m' h
  obtain ⟨htype, hnesting, hlength⟩ := hkeeps 0 (Message.within_empty t _)
  exact ⟨htype, by omega, length_nested_le_of_empty (by omega)⟩

/-- A message that is merged into one that is there. -/
lemma KeepsWithin.of_some (number : Nat) (hmerge : KeepsWithin merge depth) {body : List UInt8}
    (hm : m.HasType t) (hnesting : m.nesting < depth) (h : merge t m body = some m') :
    m'.HasType t ∧ m'.nesting < depth ∧ (nested number (m'.encode t)).length ≤
      (nested number (m.encode t)).length +
        2 * ((Payload.bytes body).encode number).length := by
  obtain ⟨hpos, hkeeps⟩ := hmerge t m body m' h
  obtain ⟨htype, hnesting', hlength⟩ := hkeeps _ ⟨hm, by omega, le_rfl⟩
  exact ⟨htype, by omega, length_nested_le hlength⟩

/-- A number may take more bytes than it was read from, as a negative one of 32 bits does, but not
more than twice as many. -/
lemma Slot.within_merge_scalar {type : ScalarType}
    (h : slot.merge merge number payload (.field ⟨number, name, .scalar type⟩) = some slot') :
    slot'.Within (.field ⟨number, name, .scalar type⟩) depth
      (size + 2 * (payload.encode number).length) := by
  rw [Slot.merge] at h
  obtain ⟨s, hs, rfl⟩ := Option.map_eq_some_iff.mp h
  have hbytes := Scalar.length_payload_of_ofPayload? number hs
  refine ⟨Scalar.hasType_of_ofPayload? hs, Nat.zero_le depth, ?_⟩
  rw [Slot.encode, Scalar.encodeField]
  split_ifs
  · exact Nat.zero_le _
  · omega

/-- A message in a field is merged into the one that is there already, so both sizes count. -/
lemma Slot.within_merge_message (hmerge : KeepsWithin merge depth)
    (hslot : slot.Within (.field ⟨number, name, .message t⟩) depth size)
    (h : slot.merge merge number payload (.field ⟨number, name, .message t⟩) = some slot') :
    slot'.Within (.field ⟨number, name, .message t⟩) depth
      (size + 2 * (payload.encode number).length) := by
  obtain ⟨hfills, hnesting, hlength⟩ := hslot
  rcases fills_message_iff.mp hfills with rfl | ⟨m, rfl, hm⟩
  · cases payload with
    | bytes body =>
      obtain ⟨m', hm', rfl⟩ := Option.map_eq_some_iff.mp h
      obtain ⟨htype, hdepth, hbytes⟩ := hmerge.of_empty number hm'
      exact ⟨htype, hdepth, hbytes.trans (Nat.le_add_left _ _)⟩
    | _ => cases h
  · cases payload with
    | bytes body =>
      obtain ⟨m', hm', rfl⟩ := Option.map_eq_some_iff.mp h
      obtain ⟨htype, hdepth, hbytes⟩ := hmerge.of_some number hm hnesting hm'
      exact ⟨htype, hdepth, hbytes.trans (Nat.add_le_add_right hlength _)⟩
    | _ => cases h

/-- A message in a list is read into an empty one and put behind the others. -/
lemma Slot.within_merge_messages (hmerge : KeepsWithin merge depth)
    (hslot : slot.Within (.field ⟨number, name, .messages t⟩) depth size)
    (h : slot.merge merge number payload (.field ⟨number, name, .messages t⟩) = some slot') :
    slot'.Within (.field ⟨number, name, .messages t⟩) depth
      (size + 2 * (payload.encode number).length) := by
  obtain ⟨hfills, hnesting, hlength⟩ := hslot
  obtain ⟨ms, rfl, hms⟩ := fills_messages_iff.mp hfills
  cases payload with
  | bytes body =>
    obtain ⟨m', hm', rfl⟩ := Option.map_eq_some_iff.mp h
    obtain ⟨htype, hdepth, hbytes⟩ := hmerge.of_empty number hm'
    rw [Slot.nesting, messagesNesting_le_iff] at hnesting
    refine ⟨fills_messages_iff.mpr ⟨_, rfl, ?_⟩, ?_, ?_⟩
    · exact List.forall_mem_append.mpr ⟨hms, List.forall_mem_singleton.mpr htype⟩
    · rw [Slot.nesting, messagesNesting_le_iff]
      exact List.forall_mem_append.mpr ⟨hnesting, List.forall_mem_singleton.mpr hdepth⟩
    · rw [Slot.encode, encodeMessages_eq] at hlength ⊢
      rw [nested] at hbytes
      rw [List.map_append, encodeItems_append, List.length_append, List.map_singleton,
        encodeItems_cons, encodeItems_nil, List.append_nil]
      dsimp only
      omega
  | _ => cases h

lemma Slot.within_merge_strings
    (hslot : slot.Within (.field ⟨number, name, .strings⟩) depth size)
    (h : slot.merge merge number payload (.field ⟨number, name, .strings⟩) = some slot') :
    slot'.Within (.field ⟨number, name, .strings⟩) depth
      (size + 2 * (payload.encode number).length) := by
  obtain ⟨hfills, hnesting, hlength⟩ := hslot
  obtain ⟨ss, rfl⟩ := fills_strings_iff.mp hfills
  rw [Slot.merge] at h
  split at h
  · next s hs =>
    cases h
    have hbytes := Scalar.length_payload_of_ofPayload? number hs
    refine ⟨fills_strings_iff.mpr ⟨_, rfl⟩, Nat.zero_le depth, ?_⟩
    rw [Slot.encode] at hlength ⊢
    rw [List.flatMap_append, List.length_append, List.flatMap_singleton]
    omega
  · cases h

/-- A oneof may be set to another member, and what it held before is dropped then. -/
lemma Slot.within_merge_oneof {members : List Member} (hmerge : KeepsWithin merge depth)
    (hslot : slot.Within (.oneof members) depth size)
    (h : slot.merge merge number payload (.oneof members) = some slot') :
    slot'.Within (.oneof members) depth (size + 2 * (payload.encode number).length) := by
  obtain ⟨hfills, hnesting, hlength⟩ := hslot
  unfold Slot.merge at h
  dsimp only at h
  split at h
  · next type hfind =>
    obtain ⟨s, hs, rfl⟩ := Option.map_eq_some_iff.mp h
    have hbytes := Scalar.length_payload_of_ofPayload? number hs
    refine ⟨?_, Nat.zero_le depth, hbytes.trans (Nat.le_add_left _ _)⟩
    have hmember : scalarMember? members number = some type := by rw [scalarMember?, hfind]
    exact fills_oneof_iff.mpr (.inr (.inl ⟨number, s, type, rfl, hmember,
      Scalar.hasType_of_ofPayload? hs⟩))
  · next t body hfind =>
    obtain ⟨m', hm', rfl⟩ := Option.map_eq_some_iff.mp h
    have hmember : messageMember? members number = some t := by rw [messageMember?, hfind]
    have hencode (m : Message) :
        (Slot.chosenMessage number m).encode (.oneof members) = nested number (m.encode t) := by
      rw [Slot.encode, hmember]
    -- The member that is set is merged with, any other one is given up.
    have hold : (∃ m, slot = .chosenMessage number m ∧ merge t m body = some m') ∨
        merge t (.empty t) body = some m' := by
      rcases slot with s | (_ | m) | ms | ss | _ | ⟨n, s⟩ | ⟨n, m⟩
      case chosenMessage =>
        dsimp only at hm'
        split_ifs at hm' with hn
        · exact .inl ⟨m, by rw [hn], hm'⟩
        · exact .inr hm'
      all_goals exact .inr hm'
    rcases hold with ⟨m, rfl, hm⟩ | hm
    · have htype : m.HasType t := by
        rcases fills_oneof_iff.mp hfills with h | ⟨n, s, type, h, -⟩ | ⟨n, m, t', h, ht', hm⟩
        · cases h
        · cases h
        · cases h
          rw [hmember] at ht'
          cases ht'
          exact hm
      obtain ⟨htype', hdepth, hbytes⟩ := hmerge.of_some number htype hnesting hm
      rw [hencode] at hlength
      refine ⟨fills_oneof_iff.mpr (.inr (.inr ⟨_, _, t, rfl, hmember, htype'⟩)), hdepth, ?_⟩
      rw [hencode]
      omega
    · obtain ⟨htype', hdepth, hbytes⟩ := hmerge.of_empty number hm
      refine ⟨fills_oneof_iff.mpr (.inr (.inr ⟨_, _, t, rfl, hmember, htype'⟩)), hdepth, ?_⟩
      rw [hencode]
      omega
  · cases h

/-- What one value adds to the size of its slot is at most twice the bytes that the value takes. -/
lemma Slot.within_merge (hmerge : KeepsWithin merge depth) (hnumber : number ∈ entry.numbers)
    (hslot : slot.Within entry depth size)
    (h : slot.merge merge number payload entry = some slot') :
    slot'.Within entry depth (size + 2 * (payload.encode number).length) := by
  cases entry with
  | field f =>
    obtain ⟨n, name, type⟩ := f
    obtain rfl : number = n := by simpa [Entry.numbers] using hnumber
    cases type with
    | scalar => exact Slot.within_merge_scalar h
    | message => exact Slot.within_merge_message hmerge hslot h
    | messages => exact Slot.within_merge_messages hmerge hslot h
    | strings => exact Slot.within_merge_strings hslot h
  | oneof members => exact Slot.within_merge_oneof hmerge hslot h

/-! ### Items -/

/-- A value is merged into the slot of its entry, or it is skipped and adds nothing. -/
lemma SlotsWithin.mergeAt {skip : Bool} (hmerge : KeepsWithin merge depth)
    (hslots : SlotsWithin entries depth size slots)
    (h : Slot.mergeAt merge skip number payload entries slots = some slots') :
    SlotsWithin entries depth (size + 2 * (payload.encode number).length) slots' := by
  induction entries generalizing slots slots' size with
  | nil =>
    rw [slotsFill_nil.mp hslots.fill, Slot.mergeAt.eq_2 _ _ _ _ _ _ (by simp)] at h
    split_ifs at h
    cases h
    exact ⟨slotsFill_nil.mpr rfl, Nat.zero_le depth, Nat.zero_le _⟩
  | cons entry entries ih =>
    obtain ⟨slot, slots, rfl, -, -⟩ := slotsFill_cons.mp hslots.fill
    have hlength := hslots.length_le
    rw [encodeSlots, List.length_append] at hlength
    rw [Slot.mergeAt] at h
    split_ifs at h with hnumber
    · obtain ⟨slot', hslot', rfl⟩ := Option.map_eq_some_iff.mp h
      exact (Slot.within_merge hmerge (Entry.hasNumber_iff.mp hnumber) hslots.head hslot').cons
        hslots.tail (by omega)
    · obtain ⟨slots', hslots', rfl⟩ := Option.map_eq_some_iff.mp h
      exact hslots.head.cons (ih hslots.tail hslots') (by omega)

lemma SlotsWithin.mono {size' : Nat} (h : SlotsWithin entries depth size slots)
    (hsize : size ≤ size') : SlotsWithin entries depth size' slots :=
  ⟨h.fill, h.nesting_le, h.length_le.trans hsize⟩

/-- What items add to the sizes of slots is at most twice the bytes of the items. -/
lemma SlotsWithin.takeItems {groups : List Nat} {items : List Item}
    (hmerge : KeepsWithin merge depth) (hslots : SlotsWithin entries depth size slots)
    (h : Message.takeItems merge depth' entries groups slots items = some slots') :
    SlotsWithin entries depth (size + 2 * (items.map Item.length).sum) slots' := by
  fun_induction Message.takeItems merge depth' entries groups slots items generalizing size with
  | case1 slots =>
    cases h
    exact hslots
  | case3 slots number payload rest ih =>
    obtain ⟨merged, hmerged, h⟩ := Option.bind_eq_some_iff.mp h
    refine (ih merged (hslots.mergeAt hmerge hmerged) h).mono ?_
    simp only [List.map_cons, List.sum_cons, Item.length]
    omega
  | case5 slots number rest hopen ih => exact (ih hslots h).mono (by simp [Item.length])
  | case7 groups slots number rest ih => exact (ih hslots h).mono (by simp [Item.length])
  | case10 group groups slots number rest hopen ih =>
    exact (ih hslots h).mono (by simp [Item.length])
  | case12 group groups slots number payload rest hopen ih =>
    refine (ih hslots h).mono ?_
    simp only [List.map_cons, List.sum_cons]
    omega
  | _ => cases h

/-! ### Messages -/

namespace Message

/-- The items of a body take all of its bytes, so the bound on items is one on the body. -/
lemma within_of_mergeBody_of_keepsWithin {body : List UInt8}
    (hmerge : KeepsWithin (mergeNested depth) depth) (hm : m.Within t depth size)
    (h : mergeBody depth t m body = some m') : m'.Within t depth (size + 2 * body.length) := by
  rw [mergeBody_eq] at h
  obtain ⟨items, hitems, h⟩ := Option.bind_eq_some_iff.mp h
  obtain ⟨slots', hslots', rfl⟩ := Option.map_eq_some_iff.mp h
  obtain ⟨slots⟩ := m
  have hslots : SlotsWithin t.entries depth size slots := ⟨hm.hasType, hm.nesting_le, hm.length_le⟩
  have hsum := sum_length_of_readItems hitems
  obtain ⟨hfill, hnesting, hlength⟩ := (hslots.takeItems hmerge hslots').mono
    (Nat.add_le_add_left (Nat.mul_le_mul_left 2 hsum) size)
  exact ⟨hfill, hnesting, hlength⟩

/-- Readers of nested messages keep within the bounds, by induction on the levels that they may
still enter. -/
lemma keepsWithin_mergeNested (depth : Nat) : KeepsWithin (mergeNested depth) depth := by
  induction depth with
  | zero =>
    intro t m body m' h
    cases h
  | succ depth ih =>
    intro t m body m' h
    exact ⟨Nat.succ_pos depth, fun size hm => within_of_mergeBody_of_keepsWithin ih hm h⟩

/-- What is read is a message of its kind, nests no deeper than allowed, and takes at most twice as
many bytes as it was read from. -/
lemma within_of_decode {bytes : List UInt8} (h : decode t bytes = some m) :
    m.Within t maxNesting (2 * bytes.length) := by
  have := within_of_mergeBody_of_keepsWithin (keepsWithin_mergeNested maxNesting)
    (within_empty t maxNesting) h
  rwa [Nat.zero_add] at this

end Message

/-! ### Limits -/

/-- Whether a reader reads whatever another one reads in the same way. -/
def ReadsLike (merge merge' : MergeBody) : Prop :=
  ∀ t m body m', merge t m body = some m' → merge' t m body = some m'

/-- A slot becomes the same with a reader that reads more. -/
lemma Slot.merge_mono (hlike : ReadsLike merge merge')
    (h : slot.merge merge number payload entry = some slot') :
    slot.merge merge' number payload entry = some slot' := by
  unfold Slot.merge at h ⊢
  split at h
  · exact h
  · split at h
    · obtain ⟨m', hm', rfl⟩ := Option.map_eq_some_iff.mp h
      rw [hlike _ _ _ _ hm']
      rfl
    · cases h
  · split at h
    · obtain ⟨m', hm', rfl⟩ := Option.map_eq_some_iff.mp h
      rw [hlike _ _ _ _ hm']
      rfl
    · cases h
  · exact h
  · dsimp only at h ⊢
    split at h
    · exact h
    · obtain ⟨m', hm', rfl⟩ := Option.map_eq_some_iff.mp h
      rw [hlike _ _ _ _ hm']
      rfl
    · cases h
  · cases h

lemma Slot.mergeAt_mono {skip skip' : Bool} (hlike : ReadsLike merge merge')
    (hskip : skip = true → skip' = true)
    (h : Slot.mergeAt merge skip number payload entries slots = some slots') :
    Slot.mergeAt merge' skip' number payload entries slots = some slots' := by
  fun_induction Slot.mergeAt merge skip number payload entries slots generalizing slots' with
  | case1 entry entries slot slots hnumber =>
    obtain ⟨slot', hslot', rfl⟩ := Option.map_eq_some_iff.mp h
    rw [Slot.mergeAt, if_pos hnumber, Slot.merge_mono hlike hslot', Option.map_some]
  | case2 entry entries slot slots hnumber ih =>
    obtain ⟨slots', hslots', rfl⟩ := Option.map_eq_some_iff.mp h
    rw [Slot.mergeAt, if_neg hnumber, ih hslots', Option.map_some]
  | case3 entries slots hskipped hne =>
    rw [Slot.mergeAt, if_pos (hskip hskipped)]
    · exact h
    · exact hne
  | case4 => cases h

namespace Message

/-- More levels for groups that are skipped do no harm either. -/
lemma takeItems_mono {groups : List Nat} {items : List Item} (hlike : ReadsLike merge merge')
    (hdepth : depth ≤ depth') (h : takeItems merge depth entries groups slots items = some slots') :
    takeItems merge' depth' entries groups slots items = some slots' := by
  fun_induction takeItems merge depth entries groups slots items with
  | case1 slots => exact h
  | case3 slots number payload rest ih =>
    obtain ⟨merged, hmerged, h⟩ := Option.bind_eq_some_iff.mp h
    have hskip : decide (depth ≠ 0) = true → decide (depth' ≠ 0) = true := by
      simp only [decide_eq_true_eq]
      omega
    rw [takeItems, Slot.mergeAt_mono hlike hskip hmerged]
    exact ih merged h
  | case5 slots number rest hopen ih =>
    have hopen' : ¬(depth' = 0 ∨ entries.any (·.hasNumber number) = true) := by
      rintro (hzero | hknown)
      · exact hopen (.inl (by omega))
      · exact hopen (.inr hknown)
    rw [takeItems, if_neg hopen']
    exact ih h
  | case7 groups slots number rest ih =>
    rw [takeItems, if_pos rfl]
    exact ih h
  | case10 group groups slots number rest hopen ih =>
    rw [takeItems, if_neg (by omega)]
    exact ih h
  | case12 group groups slots number payload rest hopen ih =>
    rw [takeItems, if_neg (by omega)]
    exact ih h
  | _ => cases h

/-- A reader that may go deeper reads the same message. -/
lemma mergeBody_mono {body : List UInt8} (hdepth : depth ≤ depth')
    (h : mergeBody depth t m body = some m') : mergeBody depth' t m body = some m' := by
  induction depth generalizing depth' t m body m' with
  | zero =>
    rw [mergeBody_eq] at h ⊢
    obtain ⟨items, hitems, h⟩ := Option.bind_eq_some_iff.mp h
    obtain ⟨slots', hslots', rfl⟩ := Option.map_eq_some_iff.mp h
    have hlike : ReadsLike (mergeNested 0) (mergeNested depth') := by
      intro t m body m' h
      cases h
    rw [hitems, Option.bind_some, takeItems_mono hlike hdepth hslots', Option.map_some]
  | succ depth ih =>
    rw [mergeBody_eq] at h ⊢
    obtain ⟨items, hitems, h⟩ := Option.bind_eq_some_iff.mp h
    obtain ⟨slots', hslots', rfl⟩ := Option.map_eq_some_iff.mp h
    have hlike : ReadsLike (mergeNested (depth + 1)) (mergeNested depth') := by
      intro t m body m' h
      obtain ⟨deeper, rfl⟩ := Nat.exists_eq_add_one.mpr (Nat.lt_of_lt_of_le (Nat.succ_pos _) hdepth)
      exact ih (Nat.le_of_succ_le_succ hdepth) h
    rw [hitems, Option.bind_some, takeItems_mono hlike hdepth hslots', Option.map_some]

end Message

end PlanImport
