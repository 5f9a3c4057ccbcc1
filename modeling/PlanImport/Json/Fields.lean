import PlanImport.Json.Raw
import PlanImport.Number.Int128

/-!
# Reading typed values from JSON texts

What typed readers have in common: records are objects, or arrays of exactly their fields; a choice
is a name or an object with a name as its only key; numbers have to fit. A reader is given how
many more containers may be entered and answers with nothing for everything that is not of its
form.
-/

namespace PlanImport.Json.Raw

def items? (depth : Nat) : Raw → Option (List Raw)
  | array items true => if depth = 0 then none else some items
  | _ => none

/-- Whether the members of an object are those of a record: the named fields occur at most once,
and the others are at least whole. -/
def areFields (names : List String) : List (Option String × Raw) → Bool
  | [] => true
  | (none, _) :: _ => false
  | (some key, v) :: rest =>
    (if names.contains key then rest.all fun (k, _) => k ≠ some key else v.isWhole) &&
      areFields names rest

/-- The fields of a record, in the order of their names. A field that does not occur is absent. -/
def fields? (names : List String) (depth : Nat) : Raw → Option (List (Option Raw))
  | object members true =>
    if depth ≠ 0 ∧ areFields names members then
      some (names.map fun name => members.lookup (some name))
    else none
  | array items true =>
    if depth ≠ 0 ∧ items.length = names.length then some (items.map some) else none
  | _ => none

/-- A choice: its name, and its argument if it has one. -/
def choice? (depth : Nat) : Raw → Option (String × Option Raw)
  | string (some name) => some (name, none)
  | object [(some name, argument)] true =>
    if depth = 0 then none else some (name, some argument)
  | _ => none

/-- The name of a choice without arguments. -/
def name? (depth : Nat) (v : Raw) : Option String :=
  match v.choice? depth with
  | some (name, none) => some name
  | some (name, some .null) => some name
  | _ => none

/-- A field that may be absent or `null`. -/
def optional? (read : Raw → Option α) : Option Raw → Option (Option α)
  | none => some none
  | some null => some none
  | some v => (read v).map some

def text? : Raw → Option String
  | string s => s
  | _ => none

def bool? : Raw → Option Bool
  | bool b => some b
  | _ => none

/-- An integer between `lo` and `hi`, both included. -/
def int? (lo hi : Int) : Raw → Option Int
  | number n =>
    match n.number? with
    | some (.int i) => if lo ≤ i ∧ i ≤ hi then some i else none
    | _ => none
  | _ => none

/-- A natural number below `2 ^ bits`. -/
def nat? (bits : Nat) (v : Raw) : Option Nat :=
  (v.int? 0 (Nat.pow 2 bits - 1 : Nat)).map Int.toNat

/-- A signed integer of so many bits. -/
def signed? (bits : Nat) (v : Raw) : Option Int :=
  v.int? (-(Nat.pow 2 (bits - 1) : Nat)) (Nat.pow 2 (bits - 1) - 1 : Nat)

def float? (f : Float.Format) : Raw → Option Nat
  | number n =>
    match n.number? with
    | some (.int i) => some (Float.ofInt f i)
    | some (.double bits) => some (Float.convert Float.double f bits.toNat)
    | _ => none
  | _ => none

/-- An integer of 128 bits. A negative zero is one. -/
def int128? : Raw → Option Int128
  | number n => n.int?.bind Int128.ofInt?
  | _ => none

/-- Read a whole text. -/
def read? (s : String) (read : Nat → Raw → Option α) : Option α :=
  match ofText s with
  | (v, true) => read maxDepth v
  | (_, false) => none

end PlanImport.Json.Raw
