import Mathlib.Tactic.Common
import PlanImport.Message.Binary
import PlanImport.Proofs.Wire

/-!
# Messages of the schema

A message is of a kind if it has a slot for each entry of the kind and every slot holds a value of
the type of its entry. How deeply messages are nested in a message is counted from the messages
that it has itself.
-/

namespace PlanImport

open Schema Wire

/-! ### Numbers of the schema -/

/-- The numbers under which an entry occurs in the binary format. -/
def Schema.Entry.numbers : Entry → List Nat
  | .field f => [f.number]
  | .oneof members => members.map (·.number)

@[simp] lemma Schema.Entry.hasNumber_iff {entry : Entry} {number : Nat} :
    entry.hasNumber number = true ↔ number ∈ entry.numbers := by
  cases entry with
  | field f => simp [Entry.hasNumber, Entry.numbers, eq_comm]
  | oneof members => simp [Entry.hasNumber, Entry.numbers]

/-- The entries of a message are in the order of their numbers, all of which differ. -/
lemma Schema.MessageType.pairwise_numbers (t : MessageType) :
    (t.entries.flatMap Entry.numbers).Pairwise (· < ·) := by
  cases t <;> decide

lemma Schema.MessageType.isFieldNumber (t : MessageType) :
    ∀ number ∈ t.entries.flatMap Entry.numbers, IsFieldNumber number := by
  cases t <;> decide

/-! ### Values of a type -/

def Scalar.HasType (type : ScalarType) : Scalar → Prop
  | .bool _ => type = .bool
  | .int32 _ => type = .int32
  | .int64 _ => type = .int64
  | .uint32 _ => type = .uint32
  | .float _ => type = .float
  | .double _ => type = .double
  | .string _ => type = .string
  | .bytes _ => type = .bytes
  | .enumeration _ => ∃ e, type = .enumeration e

lemma Scalar.hasType_default (type : ScalarType) : (Scalar.default type).HasType type := by
  cases type <;> simp [Scalar.default, Scalar.HasType]

def Schema.scalarMember? (members : List Member) (number : Nat) : Option ScalarType :=
  match members.find? (·.number = number) with
  | some ⟨_, _, .scalar type⟩ => some type
  | _ => none

mutual

/-- Whether a message is one of the given kind. -/
def Message.HasType (t : MessageType) : Message → Prop
  | ⟨slots⟩ => SlotsFill t.entries slots

def SlotsFill (entries : List Entry) : List Slot → Prop
  | [] => entries = []
  | slot :: slots =>
    match entries with
    | [] => False
    | entry :: entries => slot.Fills entry ∧ SlotsFill entries slots

/-- Whether a slot holds a value of the given entry. -/
def Slot.Fills (entry : Entry) : Slot → Prop
  | .scalar s =>
    match entry with
    | .field ⟨_, _, .scalar type⟩ => s.HasType type
    | _ => False
  | .message none =>
    match entry with
    | .field ⟨_, _, .message _⟩ => True
    | _ => False
  | .message (some m) =>
    match entry with
    | .field ⟨_, _, .message t⟩ => m.HasType t
    | _ => False
  | .messages ms =>
    match entry with
    | .field ⟨_, _, .messages t⟩ => AllHaveType t ms
    | _ => False
  | .strings _ =>
    match entry with
    | .field ⟨_, _, .strings⟩ => True
    | _ => False
  | .unset =>
    match entry with
    | .oneof _ => True
    | _ => False
  | .chosenScalar number s =>
    match entry with
    | .oneof members =>
      match scalarMember? members number with
      | some type => s.HasType type
      | none => False
    | _ => False
  | .chosenMessage number m =>
    match entry with
    | .oneof members =>
      match messageMember? members number with
      | some t => m.HasType t
      | none => False
    | _ => False

def AllHaveType (t : MessageType) : List Message → Prop
  | [] => True
  | m :: ms => m.HasType t ∧ AllHaveType t ms

end

lemma allHaveType_iff {t : MessageType} {ms : List Message} :
    AllHaveType t ms ↔ ∀ m ∈ ms, m.HasType t := by
  induction ms with
  | nil => simp [AllHaveType]
  | cons m ms ih => simp [AllHaveType, ih]

@[simp] lemma slotsFill_nil {slots : List Slot} : SlotsFill [] slots ↔ slots = [] := by
  cases slots <;> simp [SlotsFill]

@[simp] lemma slotsFill_cons {entry : Entry} {entries : List Entry} {slots : List Slot} :
    SlotsFill (entry :: entries) slots ↔
      ∃ slot rest, slots = slot :: rest ∧ slot.Fills entry ∧ SlotsFill entries rest := by
  cases slots <;> simp [SlotsFill]

/-! ### What fills an entry -/

variable {number : Nat} {name : String} {members : List Member} {slot : Slot}

lemma Slot.fills_scalar_iff {type : ScalarType} :
    slot.Fills (.field ⟨number, name, .scalar type⟩) ↔ ∃ s, slot = .scalar s ∧ s.HasType type := by
  rcases slot with s | (_ | m) | ms | ss | _ | ⟨n, s⟩ | ⟨n, m⟩ <;> simp [Slot.Fills]

lemma Slot.fills_message_iff {t : MessageType} :
    slot.Fills (.field ⟨number, name, .message t⟩) ↔
      slot = .message none ∨ ∃ m, slot = .message (some m) ∧ m.HasType t := by
  rcases slot with s | (_ | m) | ms | ss | _ | ⟨n, s⟩ | ⟨n, m⟩ <;> simp [Slot.Fills]

lemma Slot.fills_messages_iff {t : MessageType} :
    slot.Fills (.field ⟨number, name, .messages t⟩) ↔
      ∃ ms, slot = .messages ms ∧ ∀ m ∈ ms, m.HasType t := by
  rcases slot with s | (_ | m) | ms | ss | _ | ⟨n, s⟩ | ⟨n, m⟩ <;>
    simp [Slot.Fills, allHaveType_iff]

lemma Slot.fills_strings_iff :
    slot.Fills (.field ⟨number, name, .strings⟩) ↔ ∃ ss, slot = .strings ss := by
  rcases slot with s | (_ | m) | ms | ss | _ | ⟨n, s⟩ | ⟨n, m⟩ <;> simp [Slot.Fills]

/-- A oneof is unset, or set to a scalar or a message of the type of its member. -/
lemma Slot.fills_oneof_iff :
    slot.Fills (.oneof members) ↔ slot = .unset ∨
      (∃ n s type, slot = .chosenScalar n s ∧ scalarMember? members n = some type ∧
        s.HasType type) ∨
      ∃ n m t, slot = .chosenMessage n m ∧ messageMember? members n = some t ∧ m.HasType t := by
  rcases slot with s | (_ | m) | ms | ss | _ | ⟨n, s⟩ | ⟨n, m⟩ <;> simp only [Slot.Fills]
  all_goals simp
  · cases scalarMember? members n <;> simp
  · cases messageMember? members n <;> simp

/-- The empty slot fills every entry. -/
lemma Slot.fills_empty (entry : Entry) : (Slot.empty entry).Fills entry := by
  rcases entry with ⟨number, name, type | t | t | _⟩ | members <;>
    simp [Slot.empty, Slot.Fills, AllHaveType, Scalar.hasType_default]

lemma slotsFill_empty (entries : List Entry) : SlotsFill entries (entries.map Slot.empty) := by
  induction entries with
  | nil => simp
  | cons entry entries ih => simp [Slot.fills_empty, ih]

lemma Message.hasType_empty (t : MessageType) : (Message.empty t).HasType t :=
  slotsFill_empty t.entries

/-! ### Nesting -/

mutual

/-- How many messages are nested one in the other in a message. -/
def Message.nesting : Message → Nat
  | ⟨slots⟩ => slotsNesting slots

def slotsNesting : List Slot → Nat
  | [] => 0
  | slot :: slots => max slot.nesting (slotsNesting slots)

def Slot.nesting : Slot → Nat
  | .message (some m) => m.nesting + 1
  | .messages ms => messagesNesting ms
  | .chosenMessage _ m => m.nesting + 1
  | _ => 0

def messagesNesting : List Message → Nat
  | [] => 0
  | m :: ms => max (m.nesting + 1) (messagesNesting ms)

end

lemma slotsNesting_le_iff {slots : List Slot} {n : Nat} :
    slotsNesting slots ≤ n ↔ ∀ slot ∈ slots, slot.nesting ≤ n := by
  induction slots with
  | nil => simp [slotsNesting]
  | cons slot slots ih => simp [slotsNesting, ih]

lemma messagesNesting_le_iff {ms : List Message} {n : Nat} :
    messagesNesting ms ≤ n ↔ ∀ m ∈ ms, m.nesting + 1 ≤ n := by
  induction ms with
  | nil => simp [messagesNesting]
  | cons m ms ih => simp [messagesNesting, ih]

@[simp] lemma Slot.nesting_empty (entry : Entry) : (Slot.empty entry).nesting = 0 := by
  rcases entry with ⟨number, name, type | t | t | _⟩ | members <;>
    simp [Slot.empty, Slot.nesting, messagesNesting]

@[simp] lemma Message.nesting_empty (t : MessageType) : (Message.empty t).nesting = 0 := by
  rw [← Nat.le_zero, Message.empty, Message.nesting, slotsNesting_le_iff]
  simp

end PlanImport
