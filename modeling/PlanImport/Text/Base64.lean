/-!
# Base64

Bytes written as text in groups of four symbols, with the last group padded to four. Padding is
required and the bits that a last symbol does not use must be zero, so every byte string has one
text in each of the two alphabets. A bytes field is read by the standard alphabet first and by
the URL-safe one if that fails; the cause reported is the one under the URL-safe alphabet.
-/

namespace PlanImport.Base64

/-- The two alphabets agree on letters and digits and differ in their last two symbols. -/
inductive Alphabet
  /-- The last two symbols are the plus and the slash. -/
  | standard
  /-- The last two symbols are the hyphen and the underscore. -/
  | urlSafe
  deriving DecidableEq, Repr

/-- The symbol that fills the last group. -/
def pad : UInt8 := 61

/-- The symbol of a number below 64. -/
def Alphabet.symbol (a : Alphabet) (n : Nat) : UInt8 :=
  if n < 26 then UInt8.ofNat (n + 65)
  else if n < 52 then UInt8.ofNat (n + 71)
  else if n < 62 then UInt8.ofNat (n - 4)
  else match a with
    | .standard => if n = 62 then 43 else 47
    | .urlSafe => if n = 62 then 45 else 95

/-- The number of a symbol. -/
def Alphabet.number? (a : Alphabet) (b : UInt8) : Option Nat :=
  let n := b.toNat
  if 65 ≤ n ∧ n ≤ 90 then some (n - 65)
  else if 97 ≤ n ∧ n ≤ 122 then some (n - 71)
  else if 48 ≤ n ∧ n ≤ 57 then some (n + 4)
  else match a with
    | .standard => if n = 43 then some 62 else if n = 47 then some 63 else none
    | .urlSafe => if n = 45 then some 62 else if n = 95 then some 63 else none

/-- Why a text encodes no bytes. -/
inductive Error
  /-- A byte is no symbol, or padding stands where it may not. -/
  | symbol (byte : UInt8) (offset : Nat)
  /-- The last group has fewer than two symbols. -/
  | length (count : Nat)
  /-- The last symbol has bits that belong to no byte. -/
  | lastSymbol (byte : UInt8) (offset : Nat)
  /-- The last group is not filled up to four. -/
  | padding
  deriving DecidableEq, Repr

def Error.message : Error → String
  | .symbol byte offset => s!"Invalid symbol {byte.toNat}, offset {offset}."
  | .length count => s!"Invalid input length: {count}"
  | .lastSymbol byte offset => s!"Invalid last symbol {byte.toNat}, offset {offset}."
  | .padding => "Invalid padding"

/-- The three bytes of a group of four numbers. -/
def group (a b c d : Nat) : List UInt8 :=
  [UInt8.ofNat (a * 4 + b / 16), UInt8.ofNat (b % 16 * 16 + c / 4), UInt8.ofNat (c % 4 * 64 + d)]

/-- What has been read of the last group. -/
structure Tail where
  /-- The numbers of its symbols, the latest first. -/
  numbers : List Nat
  /-- The latest symbol. -/
  last : UInt8
  /-- The offsets of its padding, the latest first. -/
  pads : List Nat

/-- Read the last group, of at most four bytes, from the given offset and place in the group. -/
def readTail (a : Alphabet) (offset place : Nat) (t : Tail) : List UInt8 → Except Error Tail
  | [] => .ok t
  | b :: rest =>
    if b = pad then
      if place < 2 then .error (.symbol b (offset + place))
      else readTail a offset (place + 1) { t with pads := (offset + place) :: t.pads } rest
    else match t.pads.getLast? with
      | some first => .error (.symbol pad first)
      | none => match a.number? b with
        | none => .error (.symbol b (offset + place))
        | some n =>
          readTail a offset (place + 1) { t with numbers := n :: t.numbers, last := b } rest

/-- The bytes of the last group, which starts at the given offset. -/
def decodeTail (a : Alphabet) (offset : Nat) (bytes : List UInt8) : Except Error (List UInt8) := do
  let t ← readTail a offset 0 ⟨[], 0, []⟩ bytes
  let count := t.numbers.length
  if !bytes.isEmpty && count < 2 then throw (.length (offset + count))
  if (count + t.pads.length) % 4 ≠ 0 then throw .padding
  let excess := Error.lastSymbol t.last (offset + count - 1)
  match t.numbers with
  | [y, x] => if y % 16 = 0 then return (group x y 0 0).take 1 else throw excess
  | [z, y, x] => if z % 4 = 0 then return (group x y z 0).take 2 else throw excess
  | [w, z, y, x] => return group x y z w
  | _ => return []

/-- The bytes of the groups from the given offset on. -/
def decodeGroups (a : Alphabet) (offset : Nat) : List UInt8 → Except Error (List UInt8)
  | b₀ :: b₁ :: b₂ :: b₃ :: b₄ :: rest => do
    let number (b : UInt8) (place : Nat) : Except Error Nat :=
      match a.number? b with
      | some n => .ok n
      | none => .error (.symbol b (offset + place))
    let n₀ ← number b₀ 0
    let n₁ ← number b₁ 1
    let n₂ ← number b₂ 2
    let n₃ ← number b₃ 3
    return group n₀ n₁ n₂ n₃ ++ (← decodeGroups a (offset + 4) (b₄ :: rest))
  | bytes => decodeTail a offset bytes

/-- The bytes that a text encodes in the given alphabet. A single byte left over after complete
groups is looked at before all others. -/
def decodeWith (a : Alphabet) (bytes : List UInt8) : Except Error (List UInt8) :=
  match bytes.getLast? with
  | some b =>
    if bytes.length % 4 = 1 ∧ b ≠ pad ∧ a.number? b = none then
      .error (.symbol b (bytes.length - 1))
    else decodeGroups a 0 bytes
  | none => .ok []

/-- The bytes that a text encodes in either alphabet. -/
def decode (text : String) : Except Error (List UInt8) :=
  let bytes := text.toUTF8.toList
  match decodeWith .standard bytes with
  | .ok result => .ok result
  | .error _ => decodeWith .urlSafe bytes

/-- The text of bytes in the given alphabet. -/
def encodeWith (a : Alphabet) : List UInt8 → List UInt8
  | x :: y :: z :: rest =>
    let n := (x.toNat * 256 + y.toNat) * 256 + z.toNat
    a.symbol (n / 262144) :: a.symbol (n / 4096 % 64) :: a.symbol (n / 64 % 64) ::
      a.symbol (n % 64) :: encodeWith a rest
  | [x, y] =>
    let n := x.toNat * 256 + y.toNat
    [a.symbol (n / 1024), a.symbol (n / 16 % 64), a.symbol (n % 16 * 4), pad]
  | [x] => [a.symbol (x.toNat / 4), a.symbol (x.toNat % 4 * 16), pad, pad]
  | [] => []

end PlanImport.Base64
