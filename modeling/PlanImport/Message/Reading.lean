import PlanImport.Message.Basic
import PlanImport.Text.Quoted

/-!
# Messages from their members

How a message is put together from the members of an object or the items of an array, whatever it
is that supplies their values. Fields are filled in the order in which their members come. The
members that are no fields are kept until the end, when each oneof looks for its own among them:
at most one may have a value other than `null`.
-/

namespace PlanImport

open Schema

/-- What a value can be read as. -/
structure Reading (ε : Type) where
  /-- Whether it is `null`. -/
  isNull : Bool
  scalar : ScalarType → Except ε Scalar
  text : Except ε String
  message : MessageType → Except ε Message
  messages : MessageType → Except ε (List Message)
  strings : Except ε (List String)

/-- A member of an object. -/
structure MemberReading (ε : Type) where
  key : Except ε String
  /-- The value, to be read now. -/
  value : Reading ε
  /-- The value is not wanted. -/
  skip : Except ε Unit
  /-- The value, to be read once all members are known. -/
  later : Except ε (Reading String)

/-- The place and the type of the field of the given name in JSON. -/
def Schema.field? (entries : List Entry) (key : String) : Option (Nat × FieldType) :=
  (entries.zipIdx.findSome? fun (entry, i) =>
    match entry with
    | .field f => if jsonName f.name = key then some (i, f.type) else none
    | .oneof _ => none)

/-- The member of the given name in JSON. -/
def Schema.member? (members : List Member) (key : String) : Option Member :=
  members.find? fun m => jsonName m.name = key

namespace Reading

variable {ε : Type}

/-- The slot of a field. A message that is `null` is absent. -/
def field (v : Reading ε) : FieldType → Except ε Slot
  | .scalar type => (v.scalar type).map .scalar
  | .message t =>
    if v.isNull then .ok (.message none) else (v.message t).map fun m => .message (some m)
  | .messages t => (v.messages t).map .messages
  | .strings => v.strings.map .strings

def member (v : Reading ε) (m : Member) : Except ε Slot :=
  match m.type with
  | .scalar type => (v.scalar type).map (.chosenScalar m.number)
  | .message t => (v.message t).map (.chosenMessage m.number)

/-- The members of a oneof that have a value, with their keys. -/
def given (members : List Member) (others : List (String × Reading String)) :
    List (String × Member × Reading String) :=
  others.filterMap fun (key, v) =>
    if v.isNull then none else (member? members key).map fun m => (key, m, v)

def oneof (members : List Member) (others : List (String × Reading String)) :
    Except String Slot :=
  match given members others with
  | [] => .ok .unset
  | [(key, m, v)] => (v.member m).mapError fun e => "invalid " ++ Text.quoted key ++ ": " ++ e
  | (first, _) :: (second, _) :: _ =>
    .error ("oneof members " ++ Text.quoted first ++ " and " ++ Text.quoted second ++
      " are both set")

/-- Fill the oneofs among the slots. -/
def fillOneofs (others : List (String × Reading String)) :
    List Entry → List Slot → Except String (List Slot)
  | .oneof members :: entries, _ :: slots => do
    let slot ← oneof members others
    return slot :: (← fillOneofs others entries slots)
  | .field _ :: entries, slot :: slots => return slot :: (← fillOneofs others entries slots)
  | _, slots => .ok slots

/-- The slots and the members that are not fields, from the members in their order. `seen` are the
keys of the fields that are filled already. -/
def fillFields (raise : String → ε) (entries : List Entry) (keep : Bool) :
    List Slot → List String → List (MemberReading ε) →
      Except ε (List Slot × List (String × Reading String))
  | slots, _, [] => .ok (slots, [])
  | slots, seen, m :: rest => do
    let key ← m.key
    match field? entries key with
    | some (i, type) =>
      if seen.contains key then throw (raise ("duplicate field \x60" ++ key ++ "\x60"))
      let slot ← m.value.field type
      fillFields raise entries keep (slots.set i slot) (key :: seen) rest
    | none =>
      if keep then
        let v ← m.later
        let (slots, others) ← fillFields raise entries keep slots seen rest
        return (slots, (key, v) :: others)
      else
        m.skip
        fillFields raise entries keep slots seen rest

/-- The message of the members of an object. `finish` is what is still to be checked of the object
after its last member. -/
def ofMembers (raise : String → ε) (finish : Except ε Unit) (t : MessageType)
    (members : List (MemberReading ε)) : Except ε Message := do
  let (slots, others) ←
    fillFields raise t.entries t.hasOneof (t.entries.map Slot.empty) [] members
  finish
  if t.hasOneof then
    match fillOneofs others t.entries slots with
    | .ok slots => return ⟨slots⟩
    | .error e => throw (raise e)
  else return ⟨slots⟩

/-- The slots of the items of an array, which are the fields in their order. Fields without an
item have their default; `extra` is the answer to items without a field. -/
def ofItems (extra : Except ε Unit) : List Entry → List (Reading ε) → Except ε (List Slot)
  | [], [] => .ok []
  | [], _ :: _ => do extra; return []
  | entry :: entries, [] => .ok (Slot.empty entry :: entries.map Slot.empty)
  | .field f :: entries, v :: rest => do
    let slot ← v.field f.type
    return slot :: (← ofItems extra entries rest)
  | entry :: entries, _ :: rest => do return Slot.empty entry :: (← ofItems extra entries rest)

end Reading

end PlanImport
