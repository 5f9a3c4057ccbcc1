import PlanImport.Json.Token

/-!
# JSON texts in reading order

What a reader meets when it goes through a text from left to right: members in the order of the
text and several of the same key, and a tree that is cut off where the text stops being one of
JSON. A reader that finds the wrong kind of value in front of the cut therefore stops there and
never learns of it.
-/

namespace PlanImport.Json

/-- A value as it is met in a text. -/
inductive Raw
  | null
  | bool (b : Bool)
  | number (n : Numeral)
  /-- A string, without a text if it has a lone surrogate. -/
  | string (s : Option String)
  /-- The items before the end or the cut, and whether there is an end. -/
  | array (items : List Raw) (closed : Bool)
  /-- The members before the end or the cut, and whether there is an end. -/
  | object (members : List (Option String × Raw)) (closed : Bool)
  /-- The cut is in front of the value. -/
  | broken
  deriving Repr, Inhabited

namespace Raw

/-- A container that is open, with what it has so far, the latest first. -/
inductive Frame
  | array (items : List Raw)
  /-- An object, with the key whose value is next. -/
  | object (members : List (Option String × Raw)) (key : Option (Option String))

/-- What may come next in a text. -/
inductive Expected
  | value
  /-- The first item of an array, or its end. -/
  | firstItem
  /-- The first key of an object, or its end. -/
  | firstKey
  | key
  | colon
  /-- A comma, or the end of the innermost container. -/
  | separator
  deriving DecidableEq

/-- What a token leads to. -/
inductive Step
  | go (expected : Expected) (stack : List Frame)
  | finished (value : Raw)
  | fault

/-- A value is complete. -/
def complete (value : Raw) : List Frame → Step
  | [] => .finished value
  | .array items :: stack => .go .separator (.array (value :: items) :: stack)
  | .object members (some key) :: stack =>
    .go .separator (.object ((key, value) :: members) none :: stack)
  | .object _ none :: _ => .fault

/-- A token where a value may start. -/
def startValue (stack : List Frame) : Token → Step
  | .null => complete .null stack
  | .bool b => complete (.bool b) stack
  | .number n => complete (.number n) stack
  | .string s => complete (.string s) stack
  | .openArray => .go .firstItem (.array [] :: stack)
  | .openObject => .go .firstKey (.object [] none :: stack)
  | _ => .fault

/-- A token where a key may stand. -/
def startKey : List Frame → Token → Step
  | .object members _ :: stack, .string s => .go .colon (.object members (some s) :: stack)
  | _, _ => .fault

/-- A token where the innermost container may end. -/
def close : List Frame → Token → Step
  | .array items :: stack, .closeArray => complete (.array items.reverse true) stack
  | .object members _ :: stack, .closeObject => complete (.object members.reverse true) stack
  | _, _ => .fault

/-- Take one token. -/
def step (expected : Expected) (stack : List Frame) (t : Token) : Step :=
  match expected with
  | .value => startValue stack t
  | .firstItem => if t = .closeArray then close stack t else startValue stack t
  | .firstKey => if t = .closeObject then close stack t else startKey stack t
  | .key => startKey stack t
  | .colon => if t = .colon then .go .value stack else .fault
  | .separator =>
    if t = .comma then
      match stack with
      | .array _ :: _ => .go .value stack
      | .object .. :: _ => .go .key stack
      | [] => .fault
    else close stack t

/-- The tree that is cut off inside the open containers, after `inner` if there is a part of a
value already. -/
def cutOff (inner : Option Raw) : List Frame → Raw
  | [] => inner.getD .broken
  | .array items :: stack => cutOff (some (.array (items.reverse ++ inner.toList) false)) stack
  | .object members none :: stack => cutOff (some (.object members.reverse false)) stack
  | .object members (some key) :: stack =>
    cutOff (some (.object ((key, inner.getD .broken) :: members).reverse false)) stack

/-- Read one value: the value and the tokens after it, or the part of it before the cut. -/
def run (expected : Expected) (stack : List Frame) : List Token → Raw × Option (List Token)
  | [] => (cutOff none stack, none)
  | t :: rest =>
    match step expected stack t with
    | .go expected stack => run expected stack rest
    | .finished value => (value, some rest)
    | .fault => (cutOff none stack, none)

/-- Read a text: its value, and whether nothing but blanks follows it. -/
def ofText (s : String) : Raw × Bool :=
  match run .value [] (Token.scan s.toList) with
  | (value, some rest) => (value, rest.isEmpty)
  | (value, none) => (value, false)

mutual

/-- Whether a value is not cut off. This is all that is asked of a value that is skipped. -/
def isWhole : Raw → Bool
  | array items closed => closed && areWhole items
  | object members closed => closed && membersAreWhole members
  | broken => false
  | _ => true

def areWhole : List Raw → Bool
  | [] => true
  | v :: rest => v.isWhole && areWhole rest

def membersAreWhole : List (Option String × Raw) → Bool
  | [] => true
  | (_, v) :: rest => v.isWhole && membersAreWhole rest

end

/-- The greatest number of arrays and objects that a value may be nested in, itself included. -/
def maxDepth : Nat := 127

mutual

/-- The value that a text stands for, if it is whole, its strings have a text, its numbers are not
too large and it nests no deeper than allowed. -/
def value? (depth : Nat) : Raw → Option Json
  | null => some .null
  | bool b => some (.bool b)
  | number n => n.number?.map .number
  | string s => s.map .string
  | array items closed =>
    if depth = 0 || !closed then none else (values? (depth - 1) items).map .array
  | object members closed =>
    if depth = 0 || !closed then none else (memberValues? (depth - 1) members).map .ofMembers
  | broken => none

def values? (depth : Nat) : List Raw → Option (List Json)
  | [] => some []
  | v :: rest =>
    match v.value? depth, values? depth rest with
    | some j, some js => some (j :: js)
    | _, _ => none

/-- The members of an object in the order of the text. -/
def memberValues? (depth : Nat) : List (Option String × Raw) → Option (List (String × Json))
  | [] => some []
  | (key, v) :: rest =>
    match key, v.value? depth, memberValues? depth rest with
    | some k, some j, some js => some ((k, j) :: js)
    | _, _, _ => none

end

end Raw

end PlanImport.Json
