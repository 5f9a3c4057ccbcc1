import PlanImport.Message.Basic
import PlanImport.Wire.Item

/-!
# The binary format of messages

A message is written as its fields in the order of their numbers. Scalar fields with their
default and absent messages are left out, but the set member of a oneof is always written. When a
message is read, the last value of a scalar counts, several values of a message field are merged,
and items that are not in the schema are skipped.
-/

namespace PlanImport

open Schema Wire

namespace Scalar

/-- A signed integer as the number of 64 bits that it is on the wire. -/
def ofSigned (n : Int) : Nat := (n % 0x10000000000000000).toNat

/-- The value on the wire. -/
def payload : Scalar → Payload
  | bool b => .varint (if b then 1 else 0)
  | int32 n => .varint (ofSigned n.toInt)
  | int64 n => .varint (ofSigned n.toInt)
  | uint32 n => .varint n.toNat
  | float bits => .fixed32 bits.toNat
  | double bits => .fixed64 bits.toNat
  | string s => .bytes s.toUTF8.toList
  | bytes bs => .bytes bs
  | enumeration n => .varint (ofSigned n.toInt)

/-- Read a value of the given type. Of a number too long for the type the low bits count. -/
def ofPayload? : ScalarType → Payload → Option Scalar
  | .bool, .varint n => some (bool (n ≠ 0))
  | .int32, .varint n => some (int32 (.ofInt n))
  | .int64, .varint n => some (int64 (.ofInt n))
  | .uint32, .varint n => some (uint32 (.ofNat n))
  | .float, .fixed32 n => some (float (.ofNat n))
  | .double, .fixed64 n => some (double (.ofNat n))
  | .string, .bytes bs => (String.fromUTF8? ⟨bs.toArray⟩).map string
  | .bytes, .bytes bs => some (bytes bs)
  | .enumeration _, .varint n => some (enumeration (.ofInt n))
  | _, _ => none

end Scalar

/-! ### Writing -/

/-- A message that is part of another one. -/
def Wire.nested (number : Nat) (body : List UInt8) : List UInt8 :=
  (Payload.bytes body).encode number

def Scalar.encodeField (number : Nat) (type : ScalarType) (s : Scalar) : List UInt8 :=
  if s = Scalar.default type then [] else s.payload.encode number

/-- The type of the message member of the given number. -/
def Schema.messageMember? (members : List Member) (number : Nat) : Option MessageType :=
  match members.find? (·.number = number) with
  | some ⟨_, _, .message t⟩ => some t
  | _ => none

mutual

def Message.encode (t : MessageType) : Message → List UInt8
  | ⟨slots⟩ => encodeSlots t.entries slots

def encodeSlots (entries : List Entry) : List Slot → List UInt8
  | [] => []
  | slot :: slots =>
    match entries with
    | [] => []
    | entry :: entries => slot.encode entry ++ encodeSlots entries slots

def Slot.encode (entry : Entry) : Slot → List UInt8
  | .scalar s =>
    match entry with
    | .field ⟨number, _, .scalar type⟩ => s.encodeField number type
    | _ => []
  | .message none => []
  | .message (some m) =>
    match entry with
    | .field ⟨number, _, .message t⟩ => nested number (m.encode t)
    | _ => []
  | .messages ms =>
    match entry with
    | .field ⟨number, _, .messages t⟩ => encodeMessages number t ms
    | _ => []
  | .strings ss =>
    match entry with
    | .field ⟨number, _, .strings⟩ => ss.flatMap fun s => (Scalar.string s).payload.encode number
    | _ => []
  | .unset => []
  | .chosenScalar number s => s.payload.encode number
  | .chosenMessage number m =>
    match entry with
    | .oneof members =>
      match messageMember? members number with
      | some t => nested number (m.encode t)
      | none => []
    | _ => []

def encodeMessages (number : Nat) (t : MessageType) : List Message → List UInt8
  | [] => []
  | m :: ms => nested number (m.encode t) ++ encodeMessages number t ms

end

/-! ### Reading -/

/-- A reader for the body of a message, which it merges into a message that is there already. -/
abbrev MergeBody := MessageType → Message → List UInt8 → Option Message

/-- Whether an item of the given number belongs to an entry. -/
def Schema.Entry.hasNumber (number : Nat) : Entry → Bool
  | .field f => f.number = number
  | .oneof members => members.any (·.number = number)

/-- Merge a value into the slot of its entry. -/
def Slot.merge (merge : MergeBody) (number : Nat) (payload : Payload) (entry : Entry)
    (slot : Slot) : Option Slot :=
  match entry, slot with
  | .field ⟨_, _, .scalar type⟩, _ => (Scalar.ofPayload? type payload).map .scalar
  | .field ⟨_, _, .message t⟩, .message m =>
    match payload with
    | .bytes body => (merge t (m.getD (.empty t)) body).map fun m => .message (some m)
    | _ => none
  | .field ⟨_, _, .messages t⟩, .messages ms =>
    match payload with
    | .bytes body => (merge t (.empty t) body).map fun m => .messages (ms ++ [m])
    | _ => none
  | .field ⟨_, _, .strings⟩, .strings ss =>
    match Scalar.ofPayload? .string payload with
    | some (.string s) => some (.strings (ss ++ [s]))
    | _ => none
  | .oneof members, slot =>
    match members.find? (·.number = number), payload with
    | some ⟨_, _, .scalar type⟩, _ =>
      (Scalar.ofPayload? type payload).map (.chosenScalar number)
    | some ⟨_, _, .message t⟩, .bytes body =>
      let old := match slot with
        | .chosenMessage n m => if n = number then m else .empty t
        | _ => .empty t
      (merge t old body).map (.chosenMessage number)
    | _, _ => none
  | _, _ => none

/-- Merge a value into the slots of a message; a value that is not in the schema is skipped if
that is allowed. -/
def Slot.mergeAt (merge : MergeBody) (skip : Bool) (number : Nat) (payload : Payload) :
    List Entry → List Slot → Option (List Slot)
  | entry :: entries, slot :: slots =>
    if entry.hasNumber number then (slot.merge merge number payload entry).map (· :: slots)
    else (mergeAt merge skip number payload entries slots).map (slot :: ·)
  | _, slots => if skip then some slots else none

/-- Take the items of a body in turn. An unknown group is skipped with everything in it: `groups`
are the numbers of the groups that are open, the innermost first. No more than `depth` messages
and groups may still be opened, and an unknown item counts as one while it is skipped. -/
def Message.takeItems (merge : MergeBody) (depth : Nat) (entries : List Entry) :
    List Nat → List Slot → List Item → Option (List Slot)
  | [], slots, [] => some slots
  | _ :: _, _, [] => none
  | [], slots, .value number payload :: rest =>
    (Slot.mergeAt merge (depth ≠ 0) number payload entries slots).bind fun slots =>
      takeItems merge depth entries [] slots rest
  | [], slots, .startGroup number :: rest =>
    if depth = 0 ∨ entries.any (·.hasNumber number) then none
    else takeItems merge depth entries [number] slots rest
  | [], _, .endGroup _ :: _ => none
  | group :: groups, slots, .endGroup number :: rest =>
    if number = group then takeItems merge depth entries groups slots rest else none
  | group :: groups, slots, .startGroup number :: rest =>
    if depth ≤ (group :: groups).length then none
    else takeItems merge depth entries (number :: group :: groups) slots rest
  | group :: groups, slots, .value .. :: rest =>
    if depth ≤ (group :: groups).length then none
    else takeItems merge depth entries (group :: groups) slots rest

/-- Merge the body of a message that may open so many messages one in the other. -/
def Message.mergeBody : Nat → MergeBody
  | 0, t, m, body =>
    (readItems body).bind fun items =>
      (takeItems (fun _ _ _ => none) 0 t.entries [] m.slots items).map .mk
  | depth + 1, t, m, body =>
    (readItems body).bind fun items =>
      (takeItems (mergeBody depth) (depth + 1) t.entries [] m.slots items).map .mk

/-- The greatest number of messages that may be nested below the outermost one. -/
def Message.maxNesting : Nat := 100

/-- Read a message of the given kind. -/
def Message.decode (t : MessageType) (bytes : List UInt8) : Option Message :=
  mergeBody maxNesting t (.empty t) bytes

end PlanImport
