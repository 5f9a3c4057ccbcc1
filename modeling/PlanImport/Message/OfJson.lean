import PlanImport.Json.Raw
import PlanImport.Message.Reading
import PlanImport.Message.ScalarJson

/-!
# Messages from JSON

The members of an object are the fields of a message, a set member of a oneof among them under its
own name. A text is read on two levels. The outermost messages are read while the text is gone
through, so that a wrong shape is reported before a fault later in the text, and a key that
occurs again is seen. The value of a member of a oneof is known whole before it is looked into:
from there on the members of objects come in the order of their keys and no key occurs twice.
-/

namespace PlanImport

open Schema Json

/-- What a message is called where one is wanted. -/
def Schema.MessageType.wanted (t : MessageType) : String := "struct " ++ t.name

/-! ### Known values -/

/-- A value that has no parts. -/
def Json.leafReading (v : Json) : Reading String where
  isNull := v.isNull
  scalar type := Scalar.ofJson type v
  text := Scalar.stringOfJson v
  message t := .error (v.invalidType t.wanted)
  messages _ := .error (v.invalidType "a sequence")
  strings := .error (v.invalidType "a sequence")

def Json.memberReading (key : String) (v : Reading String) : MemberReading String :=
  { key := .ok key, value := v, skip := .ok (), later := .ok v }

/-- An array with the given items. -/
def Json.arrayReading (items : List (Reading String)) : Reading String :=
  { (Json.array []).leafReading with
    message := fun t =>
      if t.hasOneof then .error ((Json.array []).invalidType t.wanted)
      else
        let extra := .error s!"invalid length {items.length}, expected fewer elements in array"
        (Reading.ofItems extra t.entries items).map .mk
    messages := fun t => items.mapM (·.message t)
    strings := items.mapM (·.text) }

/-- An object with the given members. -/
def Json.objectReading (members : List (MemberReading String)) : Reading String :=
  { (Json.object []).leafReading with
    message := fun t => Reading.ofMembers id (.ok ()) t members }

mutual

/-- A value that is known. -/
def Json.reading : Json → Reading String
  | .array items => arrayReading (itemReadings items)
  | .object members => objectReading (memberReadings members)
  | .null => leafReading .null
  | .bool b => leafReading (.bool b)
  | .number n => leafReading (.number n)
  | .string s => leafReading (.string s)

def Json.itemReadings : List Json → List (Reading String)
  | [] => []
  | v :: rest => v.reading :: itemReadings rest

def Json.memberReadings : List (String × Json) → List (MemberReading String)
  | [] => []
  | (key, v) :: rest => memberReading key v.reading :: memberReadings rest

end

/-! ### Texts -/

/-- Why a text is no message. -/
inductive JsonFault
  /-- It is not a JSON text, nests too deeply or has a number that is too large. -/
  | malformed
  /-- It has a value of the wrong shape. -/
  | shape (message : String)
  deriving DecidableEq, Repr

namespace Json.Raw

/-- The value of a text without parts. -/
def leaf (v : Raw) : Except JsonFault Json :=
  match v.value? 0 with
  | some j => .ok j
  | none => .error .malformed

def withLeaf (v : Except JsonFault Json) (use : Json → Except String α) : Except JsonFault α :=
  v.bind fun j => (use j).mapError .shape

/-- A value whose kind is known from its first character. -/
def leafReading (isNull : Bool) (v : Except JsonFault Json) : Reading JsonFault where
  isNull := isNull
  scalar type := withLeaf v (Scalar.ofJson type)
  text := withLeaf v Scalar.stringOfJson
  message t := withLeaf v fun j => .error (j.invalidType t.wanted)
  messages _ := withLeaf v fun j => .error (j.invalidType "a sequence")
  strings := withLeaf v fun j => .error (j.invalidType "a sequence")

/-- Check a condition on the text. -/
def ensure (condition : Bool) : Except JsonFault Unit :=
  if condition then .ok () else .error .malformed

/-- An array with the given items, where so many containers may be entered. -/
def arrayReading (depth : Nat) (closed : Bool) (items : List (Reading JsonFault)) :
    Reading JsonFault :=
  { leafReading false (.ok (.array [])) with
    message := fun t =>
      if t.hasOneof then .error (.shape ((Json.array []).invalidType t.wanted))
      else do
        ensure (depth ≠ 0)
        let slots ← Reading.ofItems (.error .malformed) t.entries items
        ensure closed
        return ⟨slots⟩
    messages := fun t => do
      ensure (depth ≠ 0)
      let ms ← items.mapM (·.message t)
      ensure closed
      return ms
    strings := do
      ensure (depth ≠ 0)
      let ss ← items.mapM (·.text)
      ensure closed
      return ss }

/-- An object with the given members, where so many containers may be entered. -/
def objectReading (depth : Nat) (closed : Bool) (members : List (MemberReading JsonFault)) :
    Reading JsonFault :=
  { leafReading false (.ok (.object [])) with
    message := fun t => do
      ensure (depth ≠ 0)
      Reading.ofMembers .shape (ensure closed) t members }

mutual

/-- A value of a text, where so many containers may be entered. -/
def reading (depth : Nat) : Raw → Reading JsonFault
  | array items closed => arrayReading depth closed (itemReadings (depth - 1) items)
  | object members closed => objectReading depth closed (memberReadings (depth - 1) members)
  | null => leafReading true (.ok .null)
  | bool b => leafReading false (.ok (.bool b))
  | number n => leafReading false (leaf (number n))
  | string s => leafReading false (leaf (string s))
  | broken => leafReading false (.error .malformed)

def itemReadings (depth : Nat) : List Raw → List (Reading JsonFault)
  | [] => []
  | v :: rest => v.reading depth :: itemReadings depth rest

def memberReadings (depth : Nat) : List (Option String × Raw) → List (MemberReading JsonFault)
  | [] => []
  | (key, v) :: rest =>
    { key := match key with
        | some k => .ok k
        | none => .error .malformed
      value := v.reading depth
      skip := ensure v.isWhole
      later := match v.value? depth with
        | some j => .ok j.reading
        | none => .error .malformed } :: memberReadings depth rest

end

end Json.Raw

/-- The message of the given kind that a text holds. Only blanks may follow its value. -/
def Message.ofText (t : MessageType) (s : String) : Except JsonFault Message :=
  let (v, clean) := Json.Raw.ofText s
  ((v.reading Json.Raw.maxDepth).message t).bind fun m =>
    if clean then .ok m else .error .malformed

end PlanImport
