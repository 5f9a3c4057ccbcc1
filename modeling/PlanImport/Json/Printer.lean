import PlanImport.Float.Layout
import PlanImport.Json.Basic
import PlanImport.Text.Padded

/-!
# Printed JSON

The compact text of a value: no blanks, members in their order. Only quotes, backslashes and
control characters are escaped in strings, and numbers that are not finite are `null`.
-/

namespace PlanImport.Json

def escapedChar (c : Char) : List Char :=
  if c = '"' then ['\\', '"']
  else if c = '\\' then ['\\', '\\']
  else if c = '\x08' then ['\\', 'b']
  else if c = '\t' then ['\\', 't']
  else if c = '\n' then ['\\', 'n']
  else if c = '\x0c' then ['\\', 'f']
  else if c = '\r' then ['\\', 'r']
  else if c.toNat < 0x20 then
    ['\\', 'u', '0', '0', Nat.digitChar (c.toNat / 16), Nat.digitChar (c.toNat % 16)]
  else [c]

/-- A string between quotes. -/
def stringChars (s : String) : List Char := '"' :: s.toList.flatMap escapedChar ++ ['"']

def floatChars (f : Float.Format) (layout : Float.Layout) (bits : Nat) : List Char :=
  match Float.decode f bits with
  | .finite .. => Float.chars f layout bits
  | _ => ['n', 'u', 'l', 'l']

def Number.chars : Number → List Char
  | int n => Text.decimal n
  | single bits => floatChars Float.single Float.jsonSingle bits.toNat
  | double bits => floatChars Float.double Float.jsonDouble bits.toNat

mutual

def chars : Json → List Char
  | null => ['n', 'u', 'l', 'l']
  | bool true => ['t', 'r', 'u', 'e']
  | bool false => ['f', 'a', 'l', 's', 'e']
  | number n => n.chars
  | string s => stringChars s
  | array items => '[' :: [','].intercalate (itemsChars items) ++ [']']
  | object members => '\x7b' :: [','].intercalate (membersChars members) ++ ['\x7d']

def itemsChars : List Json → List (List Char)
  | [] => []
  | v :: rest => v.chars :: itemsChars rest

def membersChars : List (String × Json) → List (List Char)
  | [] => []
  | (key, v) :: rest => (stringChars key ++ ':' :: v.chars) :: membersChars rest

end

def render (v : Json) : String := .ofList v.chars

end PlanImport.Json
