import PlanImport.Proofs.Binary.Decoded

/-!
# The binary format keeps messages

Every message that nests no deeper than the reader goes is read back from its bytes, whatever its
kind. So bytes that are read at all are those of a message that can be written again, and what is
written then is read as the same message.
-/

namespace PlanImport

open Schema Wire

/-! ### How a message is written -/

/-- Whether items are in the order of their numbers and an entry has one exactly if its slot is
not the empty one. -/
structure Message.WrittenAs (t : MessageType) (m : Message) (items : List (Nat × Payload)) :
    Prop where
  ordered : items.Pairwise fun a b => a.1 ≤ b.1
  omitted : ∀ p ∈ t.entries.zip m.slots,
    p.2 = Slot.empty p.1 ↔ ∀ item ∈ items, item.1 ∉ p.1.numbers

/-- Items with a number of an entry are those of its slot. -/
lemma mem_items_of_mem_numbers {entries : List Entry} {slots : List Slot} {p : Entry × Slot}
    {item : Nat × Payload} (hslots : SlotsFill entries slots)
    (hnumbers : (entries.flatMap Entry.numbers).Pairwise (· < ·)) (hp : p ∈ entries.zip slots)
    (hitem : item ∈ (entries.zip slots).flatMap fun (entry, slot) => slot.items entry)
    (hnumber : item.1 ∈ p.1.numbers) : item ∈ p.2.items p.1 := by
  induction entries generalizing slots with
  | nil => simp at hp
  | cons entry entries ih =>
    obtain ⟨slot, slots, rfl, hslot, hrest⟩ := slotsFill_cons.mp hslots
    rw [List.flatMap_cons, List.pairwise_append] at hnumbers
    obtain ⟨-, hlater, hlt⟩ := hnumbers
    rw [List.zip_cons_cons] at hp hitem
    rw [List.flatMap_cons, List.mem_append] at hitem
    have hearlier : ∀ q ∈ entries.zip slots, ∀ n ∈ q.1.numbers,
        n ∈ entries.flatMap Entry.numbers :=
      fun q hq n hn => List.mem_flatMap.mpr ⟨q.1, (List.of_mem_zip hq).1, hn⟩
    rcases List.mem_cons.mp hp with rfl | hp
    · rcases hitem with hhead | htail
      · exact hhead
      · exact absurd (hlt _ hnumber _ ((pairwise_items hrest hlater).2 item htail)) (lt_irrefl _)
    · rcases hitem with hhead | htail
      · obtain ⟨n, hn⟩ := Slot.exists_number_of_fills hslot
        have hmem := (hn item hhead).1 ▸ (hn item hhead).2
        exact absurd (hlt _ hmem _ (hearlier p hp _ hnumber)) (lt_irrefl _)
      · exact ih hrest hlater hp htail

/-- Slots that are those of entries are so one by one. -/
lemma SlotsFill.fills {entries : List Entry} {slots : List Slot} {p : Entry × Slot}
    (hslots : SlotsFill entries slots) (hp : p ∈ entries.zip slots) : p.2.Fills p.1 := by
  induction entries generalizing slots with
  | nil => simp at hp
  | cons entry entries ih =>
    obtain ⟨slot, slots, rfl, hslot, hrest⟩ := slotsFill_cons.mp hslots
    rcases List.mem_cons.mp hp with rfl | hp
    · exact hslot
    · exact ih hrest hp

namespace Message

variable {t : MessageType} {m : Message}

/-- The entries of a message are in the order of their numbers, and so are its items. -/
lemma writtenAs_items (hm : m.HasType t) : m.WrittenAs t (m.items t) := by
  obtain ⟨slots⟩ := m
  refine ⟨(pairwise_items hm t.pairwise_numbers).1, fun p hp => ?_⟩
  have hslot := SlotsFill.fills hm hp
  rw [← Slot.items_eq_nil_iff hslot]
  constructor
  · intro hnil item hitem hnumber
    have hmem := mem_items_of_mem_numbers hm t.pairwise_numbers hp hitem hnumber
    rw [hnil] at hmem
    cases hmem
  · intro hnone
    rw [List.eq_nil_iff_forall_not_mem]
    intro item hitem
    obtain ⟨n, hn⟩ := Slot.exists_number_of_fills hslot
    exact hnone item (List.mem_flatMap.mpr ⟨p, hp, hitem⟩) ((hn item hitem).1 ▸ (hn item hitem).2)

/-! ### Reading again -/

/-- What is read can be written and read again. -/
lemma decode_encode_of_decode {bytes : List UInt8} (hsize : bytes.length < 2 ^ 63)
    (h : decode t bytes = some m) : decode t (m.encode t) = some m := by
  obtain ⟨hm, hnesting, hlength⟩ := within_of_decode h
  exact mergeBody_encode hm hnesting (by omega)

/-- What is written is read back as long as it nests no more deeply than the reader goes, and not at
all if it nests more deeply. -/
lemma decode_encode_eq_some_iff {m' : Message} (hm : m.HasType t)
    (hsize : (m.encode t).length < 2 ^ 64) :
    decode t (m.encode t) = some m' ↔ m' = m ∧ m.nesting ≤ maxNesting := by
  constructor
  · intro h
    -- A reader that goes deep enough for the message gives the same answer as this one.
    have hdeep := mergeBody_mono (Nat.le_max_left maxNesting m.nesting) h
    rw [mergeBody_encode hm (Nat.le_max_right maxNesting m.nesting) hsize] at hdeep
    cases hdeep
    exact ⟨rfl, (within_of_decode h).nesting_le⟩
  · rintro ⟨rfl, hnesting⟩
    exact mergeBody_encode hm hnesting hsize

/-- Of every kind, a message that nests no more deeply than the reader goes is read back from its
bytes, which are those of its items: in the order of their numbers, without fields that have their
default, and with the member of a oneof that is set. What is read from bytes is written as bytes
that stand for the same message and are written as themselves. No byte string of a memory has
`2 ^ 63` bytes or more, so the limits on lengths exclude none. -/
theorem roundTrip (t : MessageType) :
    (∀ m : Message, m.HasType t → m.nesting ≤ maxNesting → (m.encode t).length < 2 ^ 64 →
      (∃ items, readItems (m.encode t) = some (items.map fun item => .value item.1 item.2) ∧
        m.WrittenAs t items) ∧
      decode t (m.encode t) = some m) ∧
    ∀ (bytes : List UInt8) (m : Message), bytes.length < 2 ^ 63 → decode t bytes = some m →
      decode t (m.encode t) = some m ∧
        (decode t (m.encode t)).map (encode t) = some (m.encode t) := by
  constructor
  · intro m hm hnesting hsize
    exact ⟨⟨m.items t, readItems_encode hm hsize, writtenAs_items hm⟩,
      mergeBody_encode hm hnesting hsize⟩
  · intro bytes m hsize h
    have hback := decode_encode_of_decode hsize h
    exact ⟨hback, by rw [hback, Option.map_some]⟩

/-- A literal zero that may be absent. -/
def zeroLiteral : Message := ⟨[.chosenMessage 1 ⟨[.chosenScalar 5 (.int32 0), .scalar (.bool true)]⟩]⟩

/-- The literal is written although its value is the default. A negative number in five bytes is
read and takes ten bytes when it is written. -/
theorem roundTrip_default_and_negative :
    (zeroLiteral.HasType .expression ∧ zeroLiteral.nesting ≤ maxNesting ∧
      zeroLiteral.encode .expression = [0x0a, 0x05, 0x28, 0x00, 0x90, 0x03, 0x01] ∧
      decode .expression (zeroLiteral.encode .expression) = some zeroLiteral) ∧
    decode .literal [0x28, 0xff, 0xff, 0xff, 0xff, 0x0f] =
      some ⟨[.chosenScalar 5 (.int32 (-1)), .scalar (.bool false)]⟩ ∧
    decode .literal (encode .literal ⟨[.chosenScalar 5 (.int32 (-1)), .scalar (.bool false)]⟩) =
      some ⟨[.chosenScalar 5 (.int32 (-1)), .scalar (.bool false)]⟩ := by
  have htype : zeroLiteral.HasType .expression := by
    simp [zeroLiteral, HasType, MessageType.entries, SlotsFill, Slot.Fills, messageMember?,
      scalarMember?, Scalar.HasType]
  have hnesting : zeroLiteral.nesting ≤ maxNesting := by decide
  have hbytes : zeroLiteral.encode .expression = [0x0a, 0x05, 0x28, 0x00, 0x90, 0x03, 0x01] := by
    cbv
  have hread : decode .literal [0x28, 0xff, 0xff, 0xff, 0xff, 0x0f] =
      some ⟨[.chosenScalar 5 (.int32 (-1)), .scalar (.bool false)]⟩ := by
    cbv
  refine ⟨⟨htype, hnesting, hbytes, ?_⟩, hread, ?_⟩
  · exact ((roundTrip .expression).1 zeroLiteral htype hnesting (by rw [hbytes]; decide)).2
  · exact ((roundTrip .literal).2 _ _ (by decide) hread).1

end Message

end PlanImport
