import PlanImport.Float.Reading
import PlanImport.Json.Basic
import PlanImport.Json.Printer
import PlanImport.Message.Basic
import PlanImport.Text.Base64
import PlanImport.Text.Blank
import PlanImport.Text.Quoted

/-!
# Scalars in JSON

How the scalar fields of a message are written in JSON: integers of 64 bits as numbers or as
strings, enumerations by name or number, bytes in base64, and floating point numbers as numbers or
as strings, which is the only spelling of those that are not finite.
-/

namespace PlanImport

open Schema

/-- What was found where something else was wanted. -/
def Json.found : Json → String
  | .null => "null"
  | .bool b => "boolean " ++ tick ++ (if b then "true" else "false") ++ tick
  | .number (.int n) => "integer " ++ tick ++ .ofList (Text.decimal n) ++ tick
  | .number n => "floating point " ++ tick ++ .ofList n.chars ++ tick
  | .string s => "string " ++ Text.quoted s
  | .array _ => "sequence"
  | .object _ => "map"
where
  /-- The mark around a value. -/
  tick : String := "\x60"

/-- The wording for a value of the wrong type. -/
def Json.invalidType (v : Json) (wanted : String) : String :=
  "invalid type: " ++ v.found ++ ", expected " ++ wanted

/-- The wording for an integer that is out of range. -/
def Json.invalidValue (v : Json) (wanted : String) : String :=
  "invalid value: " ++ v.found ++ ", expected " ++ wanted

namespace Scalar

/-- An integer between `lo` and `hi`, both included. -/
def intOfJson (lo hi : Int) (wanted : String) (v : Json) : Except String Int :=
  match v with
  | .number (.int n) => if lo ≤ n ∧ n ≤ hi then .ok n else .error (v.invalidValue wanted)
  | _ => .error (v.invalidType wanted)

def int64OfJson (v : Json) : Except String Int64 :=
  match v with
  | .number (.int n) =>
    if -0x8000000000000000 ≤ n ∧ n < 0x8000000000000000 then .ok (.ofInt n)
    else .error ("integer " ++ .ofList (Text.decimal n) ++ " out of range for int64")
  | .string s =>
    match IntText.readInt64 (Text.trim s.toList) with
    | .ok n => .ok n
    | .error e => .error ("invalid int64 string " ++ Text.quoted s ++ ": " ++ e.message)
  | _ => .error (v.invalidType "a 64-bit integer or its decimal string")

/-- The bits of a floating point number of 64 bits. -/
def doubleOfJson (v : Json) : Except String Nat :=
  match v with
  | .number (.int n) => .ok (Float.ofInt Float.double n)
  | .number (.double bits) => .ok bits.toNat
  | .number (.single bits) => .ok (Float.convert Float.single Float.double bits.toNat)
  | .string s =>
    match Float.read Float.double s.toList with
    | .ok bits => .ok bits
    | .error e => .error ("invalid double string " ++ Text.quoted s ++ ": " ++ e.message)
  | _ => .error (v.invalidType "a floating point number")

def enumOfJson (type : EnumType) (v : Json) : Except String Int32 :=
  match v with
  | .number (.int n) =>
    if -0x80000000 ≤ n ∧ n < 0x80000000 then .ok (.ofInt n)
    else .error ("enum number " ++ .ofList (Text.decimal n) ++ " out of range")
  | .string s =>
    match type.values.lookup s with
    | some n => .ok n
    | none => .error ("unknown enum value " ++ Text.quoted s)
  | _ => .error (v.invalidType "an enum value name or number")

def stringOfJson (v : Json) : Except String String :=
  match v with
  | .string s => .ok s
  | _ => .error (v.invalidType "a string")

/-- A scalar of the given type. A floating point number of 32 bits is the one nearest to the
number of 64 bits that is read. -/
def ofJson (type : ScalarType) (v : Json) : Except String Scalar :=
  match type with
  | .bool =>
    match v with
    | .bool b => .ok (bool b)
    | _ => .error (v.invalidType "a boolean")
  | .int32 => (intOfJson (-0x80000000) 0x7fffffff "i32" v).map fun n => int32 (.ofInt n)
  | .uint32 => (intOfJson 0 0xffffffff "u32" v).map fun n => uint32 (.ofNat n.toNat)
  | .int64 => (int64OfJson v).map int64
  | .float => (doubleOfJson v).map fun bits =>
      float (.ofNat (Float.convert Float.double Float.single bits))
  | .double => (doubleOfJson v).map fun bits => double (.ofNat bits)
  | .string => (stringOfJson v).map string
  | .bytes =>
    match stringOfJson v with
    | .error e => .error e
    | .ok s =>
      match Base64.decode s with
      | .ok bs => .ok (bytes bs)
      | .error e => .error ("invalid base64 bytes: " ++ e.message)
  | .enumeration e => (enumOfJson e v).map enumeration

end Scalar

end PlanImport
