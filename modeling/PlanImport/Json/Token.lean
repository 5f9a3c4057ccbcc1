import PlanImport.Json.Numeral

/-!
# Tokens of JSON

A text as the list of its tokens, the blanks between them left out. The list ends with a bad
token where the text stops being one of JSON.
-/

namespace PlanImport.Json

inductive Token
  | openArray
  | closeArray
  | openObject
  | closeObject
  | comma
  | colon
  | null
  | bool (b : Bool)
  | number (n : Numeral)
  /-- A string. One with an escaped surrogate that is not part of a pair has no text. -/
  | string (s : Option String)
  /-- The rest of the text is not of JSON. -/
  | bad
  deriving DecidableEq, Repr

/-- A part of a string as it is written. -/
inductive Piece
  /-- A character, by itself or by a short escape. -/
  | char (c : Char)
  /-- A code unit of 16 bits by its number. -/
  | unit (n : Nat)
  deriving DecidableEq, Repr

def hexDigit? (c : Char) : Option Nat :=
  if '0' ≤ c ∧ c ≤ '9' then some (c.toNat - '0'.toNat)
  else if 'a' ≤ c ∧ c ≤ 'f' then some (c.toNat - 'a'.toNat + 10)
  else if 'A' ≤ c ∧ c ≤ 'F' then some (c.toNat - 'A'.toNat + 10)
  else none

/-- The value of four hexadecimal digits. -/
def hexUnit? (a b c d : Char) : Option Nat := do
  return ((← hexDigit? a) * 16 + (← hexDigit? b)) * 256 + (← hexDigit? c) * 16 + (← hexDigit? d)

def shortEscape? (c : Char) : Option Char :=
  if c = '"' ∨ c = '\\' ∨ c = '/' then some c
  else if c = 'b' then some '\x08'
  else if c = 'f' then some '\x0c'
  else if c = 'n' then some '\n'
  else if c = 'r' then some '\r'
  else if c = 't' then some '\t'
  else none

/-- Read a string after its opening quote: its parts and what follows the closing quote. -/
def scanString : List Char → Option (List Piece × List Char)
  | '\\' :: 'u' :: a :: b :: c :: d :: rest =>
    match hexUnit? a b c d, scanString rest with
    | some n, some (pieces, tail) => some (.unit n :: pieces, tail)
    | _, _ => none
  | '\\' :: c :: rest =>
    match shortEscape? c, scanString rest with
    | some e, some (pieces, tail) => some (.char e :: pieces, tail)
    | _, _ => none
  | '"' :: rest => some ([], rest)
  | c :: rest =>
    if c.toNat < 0x20 ∨ c = '\\' then none
    else (scanString rest).map fun (pieces, tail) => (.char c :: pieces, tail)
  | [] => none

/-- The text of the parts of a string: two code units that form a surrogate pair are one
character, and a surrogate that is not part of a pair is none. -/
def assemble : List Piece → Option (List Char)
  | [] => some []
  | .char c :: rest => (assemble rest).map (c :: ·)
  | .unit n :: rest =>
    if 0xD800 ≤ n ∧ n < 0xDC00 then
      match rest with
      | .unit m :: rest =>
        if 0xDC00 ≤ m ∧ m < 0xE000 then
          (assemble rest).map (Char.ofNat (0x10000 + (n - 0xD800) * 1024 + (m - 0xDC00)) :: ·)
        else none
      | _ => none
    else if 0xDC00 ≤ n ∧ n < 0xE000 then none
    else (assemble rest).map (Char.ofNat n :: ·)

/-- Read the digits after the point, if there is one. -/
def scanPart : List Char → Option (List Char × List Char)
  | '.' :: rest =>
    let digits := rest.takeWhile Char.isDigit
    if digits.isEmpty then none else some (digits, rest.dropWhile Char.isDigit)
  | rest => some ([], rest)

/-- Read an exponent, if there is one. -/
def scanExponent : List Char → Option (Option (Bool × List Char) × List Char)
  | [] => some (none, [])
  | letter :: rest =>
    if letter = 'e' ∨ letter = 'E' then
      let (negative, rest) := match rest with
        | '+' :: rest => (false, rest)
        | '-' :: rest => (true, rest)
        | rest => (false, rest)
      let digits := rest.takeWhile Char.isDigit
      if digits.isEmpty then none
      else some (some (negative, digits), rest.dropWhile Char.isDigit)
    else some (none, letter :: rest)

/-- Read a numeral after its sign: it has a digit in front of the point and no zero in front of
other digits. -/
def scanNumeral (negative : Bool) (cs : List Char) : Option (Numeral × List Char) :=
  let whole := cs.takeWhile Char.isDigit
  if whole.isEmpty || (whole.head? = some '0' && whole.length ≠ 1) then none
  else match scanPart (cs.dropWhile Char.isDigit) with
    | none => none
    | some (part, rest) => match scanExponent rest with
      | none => none
      | some (exponent, rest) => some (⟨negative, whole, part, exponent⟩, rest)

theorem length_scanString {cs : List Char} {pieces : List Piece} {rest : List Char}
    (h : scanString cs = some (pieces, rest)) : rest.length < cs.length := by
  fun_induction scanString cs generalizing pieces rest with
  | case1 _ _ _ _ _ _ _ _ hs _ ih =>
    cases h; have := ih hs; simp only [List.length_cons]; omega
  | case3 _ _ _ _ _ _ hs _ ih =>
    cases h; have := ih hs; simp only [List.length_cons]; omega
  | case5 => cases h; simp
  | case7 c tail _ _ _ _ ih =>
    simp only [Option.map_eq_some_iff, Prod.exists] at h
    obtain ⟨ps, t, hs, h⟩ := h
    cases h; have := ih hs; simp only [List.length_cons]; omega
  | _ => simp at h

theorem length_dropDigits (cs : List Char) :
    (cs.takeWhile Char.isDigit).length + (cs.dropWhile Char.isDigit).length = cs.length := by
  rw [← List.length_append, List.takeWhile_append_dropWhile]

theorem length_scanPart {cs ds rest : List Char} (h : scanPart cs = some (ds, rest)) :
    rest.length ≤ cs.length := by
  unfold scanPart at h
  split at h
  · next tail => have := length_dropDigits tail; grind
  · grind

theorem length_scanExponent {cs rest : List Char} {e : Option (Bool × List Char)}
    (h : scanExponent cs = some (e, rest)) : rest.length ≤ cs.length := by
  unfold scanExponent at h
  split at h
  · grind
  · next letter tail =>
    split at h
    · dsimp only at h
      split at h <;> grind [length_dropDigits]
    · grind

theorem length_scanNumeral {negative : Bool} {cs rest : List Char} {n : Numeral}
    (h : scanNumeral negative cs = some (n, rest)) : rest.length < cs.length := by
  unfold scanNumeral at h
  have hd := length_dropDigits cs
  dsimp only at h
  split at h
  · cases h
  · next hw =>
    have hpos : 0 < (cs.takeWhile Char.isDigit).length := by
      cases hc : cs.takeWhile Char.isDigit with
      | nil => simp [hc] at hw
      | cons => simp
    split at h
    · cases h
    · next hp =>
      have := length_scanPart hp
      split at h
      · cases h
      · next he => have := length_scanExponent he; cases h; omega

def Token.scan (cs : List Char) : List Token :=
  match cs with
  | [] => []
  | 'n' :: 'u' :: 'l' :: 'l' :: rest => .null :: scan rest
  | 't' :: 'r' :: 'u' :: 'e' :: rest => .bool true :: scan rest
  | 'f' :: 'a' :: 'l' :: 's' :: 'e' :: rest => .bool false :: scan rest
  | '"' :: rest =>
    match _h : scanString rest with
    | some (pieces, tail) => .string ((assemble pieces).map String.ofList) :: scan tail
    | none => [.bad]
  | '-' :: rest =>
    match _h : scanNumeral true rest with
    | some (n, tail) => .number n :: scan tail
    | none => [.bad]
  | c :: rest =>
    if c = ' ' ∨ c = '\n' ∨ c = '\t' ∨ c = '\r' then scan rest
    else if c = '[' then .openArray :: scan rest
    else if c = ']' then .closeArray :: scan rest
    else if c = '\x7b' then .openObject :: scan rest
    else if c = '\x7d' then .closeObject :: scan rest
    else if c = ',' then .comma :: scan rest
    else if c = ':' then .colon :: scan rest
    else match _h : scanNumeral false (c :: rest) with
      | some (n, tail) => .number n :: scan tail
      | none => [.bad]
termination_by cs.length
decreasing_by
  all_goals subst_vars
  all_goals first
    | exact length_scanNumeral _h
    | exact Nat.lt_succ_of_lt (length_scanString _h)
    | exact Nat.lt_succ_of_lt (length_scanNumeral _h)
    | (simp only [List.length_cons]; omega)

end PlanImport.Json
