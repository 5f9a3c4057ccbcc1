import PlanImport.Wire.Varint

/-!
# Items of the binary format

The body of a message is a sequence of items. Each starts with a key, a field number and the way
in which the value is written, so a body can be split into its items without knowing the schema.
-/

namespace PlanImport.Wire

/-- A value as it is written. -/
inductive Payload
  | varint (n : Nat)
  | fixed64 (n : Nat)
  | bytes (bs : List UInt8)
  | fixed32 (n : Nat)
  deriving DecidableEq, Repr

/-- An item of a body. -/
inductive Item
  | value (number : Nat) (payload : Payload)
  /-- The items up to the end of the group are its body. -/
  | startGroup (number : Nat)
  | endGroup (number : Nat)
  deriving DecidableEq, Repr

def readBytes (count : Nat) (bytes : List UInt8) : Option (List UInt8 × List UInt8) :=
  if bytes.length < count then none else some (bytes.take count, bytes.drop count)

/-- Read one item. A field number is positive and a key has at most 32 bits. -/
def readItem (bytes : List UInt8) : Option (Item × List UInt8) :=
  match readVarint bytes with
  | none => none
  | some (key, rest) =>
    let number := key / 8
    if 0x100000000 ≤ key ∨ number = 0 then none
    else match key % 8 with
      | 0 => (readVarint rest).map fun (n, tail) => (.value number (.varint n), tail)
      | 1 => (readFixed 8 rest).map fun (n, tail) => (.value number (.fixed64 n), tail)
      | 2 => match readVarint rest with
        | none => none
        | some (size, rest) =>
          (readBytes size rest).map fun (bs, tail) => (.value number (.bytes bs), tail)
      | 3 => some (.startGroup number, rest)
      | 4 => some (.endGroup number, rest)
      | 5 => (readFixed 4 rest).map fun (n, tail) => (.value number (.fixed32 n), tail)
      | _ => none

theorem length_readItem {bytes rest : List UInt8} {item : Item}
    (h : readItem bytes = some (item, rest)) : rest.length < bytes.length := by
  have varintShorter {n : Nat} {bytes rest : List UInt8} (h : readVarint bytes = some (n, rest)) :
      rest.length < bytes.length := length_readVarintWith h
  unfold readItem at h
  split at h
  · cases h
  · next key tail hk =>
    have := varintShorter hk
    dsimp only at h
    split at h
    · cases h
    · split at h
      · obtain ⟨⟨n, t⟩, hr, h⟩ := Option.map_eq_some_iff.1 h
        have := varintShorter hr; obtain ⟨_, rfl⟩ := Prod.mk.inj h; dsimp only; omega
      · obtain ⟨⟨n, t⟩, hr, h⟩ := Option.map_eq_some_iff.1 h
        have := length_readFixed hr; obtain ⟨_, rfl⟩ := Prod.mk.inj h; dsimp only; omega
      · split at h
        · cases h
        · next hs =>
          have := varintShorter hs
          obtain ⟨⟨bs, t⟩, hr, h⟩ := Option.map_eq_some_iff.1 h
          unfold readBytes at hr
          split at hr
          · cases hr
          · cases hr; cases h; simp only [List.length_drop]; omega
      · cases h; omega
      · cases h; omega
      · obtain ⟨⟨n, t⟩, hr, h⟩ := Option.map_eq_some_iff.1 h
        have := length_readFixed hr; obtain ⟨_, rfl⟩ := Prod.mk.inj h; dsimp only; omega
      · cases h

/-- The items of a body. -/
def readItems (bytes : List UInt8) : Option (List Item) :=
  if bytes.isEmpty then some []
  else match _h : readItem bytes with
    | none => none
    | some (item, rest) => (readItems rest).map (item :: ·)
termination_by bytes.length
decreasing_by exact length_readItem _h

/-- The bytes of a value with its key. -/
def Payload.encode (number : Nat) : Payload → List UInt8
  | varint n => Wire.varint (number * 8) ++ Wire.varint n
  | fixed64 n => Wire.varint (number * 8 + 1) ++ fixed 8 n
  | bytes bs => Wire.varint (number * 8 + 2) ++ Wire.varint bs.length ++ bs
  | fixed32 n => Wire.varint (number * 8 + 5) ++ fixed 4 n

end PlanImport.Wire
