/-!
# JSON values

Values as they are once a text has been read whole: the members of an object are in increasing
order of their keys and no key occurs twice. Output values may have their members in any order
and carry floating point numbers of either width.
-/

namespace PlanImport

/-- A number of a JSON text. -/
inductive Json.Number
  /-- An integer. -/
  | int (n : Int)
  /-- A floating point number of 32 bits, by its bit pattern. -/
  | single (bits : UInt32)
  /-- A floating point number of 64 bits, by its bit pattern. -/
  | double (bits : UInt64)
  deriving DecidableEq, Repr

inductive Json
  | null
  | bool (b : Bool)
  | number (n : Json.Number)
  | string (s : String)
  | array (items : List Json)
  | object (members : List (String × Json))
  deriving Repr, Inhabited

namespace Json

def isNull : Json → Bool
  | null => true
  | _ => false

/-- Put a member at its place in the order of the keys, in place of one of the same key. -/
def insertMember (key : String) (value : Json) : List (String × Json) → List (String × Json)
  | [] => [(key, value)]
  | (k, v) :: rest =>
    if key < k then (key, value) :: (k, v) :: rest
    else if key = k then (key, value) :: rest
    else (k, v) :: insertMember key value rest

/-- The object of members in the order of a text: of several of the same key the last one counts. -/
def ofMembers (members : List (String × Json)) : Json :=
  .object (members.foldl (fun sorted (k, v) => insertMember k v sorted) [])

end Json

end PlanImport
