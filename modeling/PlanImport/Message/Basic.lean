import PlanImport.Message.Schema

/-!
# Messages

A message as the list of its slots, one for each entry of its kind in the schema and in the same
order. A field without a value has its default: zero, the empty text, no message. At most one
member of a oneof is set.
-/

namespace PlanImport

open Schema

inductive Scalar
  | bool (b : Bool)
  | int32 (n : Int32)
  | int64 (n : Int64)
  | uint32 (n : UInt32)
  /-- A floating point number of 32 bits, by its bit pattern. -/
  | float (bits : UInt32)
  /-- A floating point number of 64 bits, by its bit pattern. -/
  | double (bits : UInt64)
  | string (s : String)
  | bytes (bs : List UInt8)
  /-- A number of an enumeration, which need not be that of a named value. -/
  | enumeration (n : Int32)
  deriving DecidableEq, Repr, Inhabited

/-- The value of a field that is not given. -/
def Scalar.default : ScalarType → Scalar
  | .bool => .bool false
  | .int32 => .int32 0
  | .int64 => .int64 0
  | .uint32 => .uint32 0
  | .float => .float 0
  | .double => .double 0
  | .string => .string ""
  | .bytes => .bytes []
  | .enumeration _ => .enumeration 0

mutual

inductive Message
  | mk (slots : List Slot)

/-- The value of an entry. -/
inductive Slot
  | scalar (s : Scalar)
  | message (m : Option Message)
  | messages (ms : List Message)
  | strings (ss : List String)
  /-- No member of a oneof is set. -/
  | unset
  /-- The scalar member of the given number is set. -/
  | chosenScalar (number : Nat) (s : Scalar)
  /-- The message member of the given number is set. -/
  | chosenMessage (number : Nat) (m : Message)

end

deriving instance Repr for Message, Slot
deriving instance Inhabited for Message, Slot

def Message.slots : Message → List Slot
  | mk slots => slots

/-- The value of an entry that is not given. -/
def Slot.empty : Entry → Slot
  | .field ⟨_, _, .scalar type⟩ => .scalar (.default type)
  | .field ⟨_, _, .message _⟩ => .message none
  | .field ⟨_, _, .messages _⟩ => .messages []
  | .field ⟨_, _, .strings⟩ => .strings []
  | .oneof _ => .unset

/-- The message of which nothing is given. -/
def Message.empty (t : MessageType) : Message := ⟨t.entries.map Slot.empty⟩

/-- The name of the member that is set in the first oneof of a message. -/
def Message.memberName? (t : MessageType) (m : Message) : Option String :=
  (t.entries.zip m.slots).firstM fun (entry, slot) =>
    match entry with
    | .field _ => none
    | .oneof members =>
      let nameOf (number : Nat) := (members.find? (·.number = number)).map (·.name)
      match slot with
      | .chosenScalar number _ => nameOf number
      | .chosenMessage number _ => nameOf number
      | _ => none

end PlanImport
