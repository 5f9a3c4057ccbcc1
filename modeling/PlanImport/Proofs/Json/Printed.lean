import Mathlib.Data.List.TakeWhile
import PlanImport.Proofs.Json.Text
import PlanImport.Proofs.Number.Digits

/-!
# Printed values

What is met in the text of a value: the same value, its integers as numerals, its members in their
order. Floating point numbers are left out, as their texts need not be read as the same number.
-/

namespace PlanImport.Json

/-! ### Integers -/

def Numeral.ofInt (n : Int) : Numeral := ⟨n < 0, Text.digits n.natAbs, [], none⟩

namespace Numeral

/-- The numeral of an integer is read as this integer, whatever its sign. -/
@[simp] lemma int?_ofInt (n : Int) : (ofInt n).int? = some n := by
  rw [int?, ofInt]
  simp only [List.isEmpty_nil, Option.isNone_none, Bool.and_self, if_true, IntText.value_digits]
  by_cases h : n < 0
  · simp only [h, decide_true, if_true]
    congr 1
    omega
  · simp only [h, decide_false, Bool.false_eq_true, if_false]
    congr 1
    omega

/-- The numeral of an integer that fits into 64 bits is this integer. -/
lemma number?_ofInt {n : Int} (h : -0x8000000000000000 ≤ n) (h' : n < 0x10000000000000000) :
    (ofInt n).number? = some (.int n) := by
  rw [number?, int?_ofInt]
  by_cases hn : n < 0
  · simp [ofInt, hn, h]
  · simp [ofInt, hn, h']

end Numeral

/-- Digits are a numeral to their end; there is no leading zero that would end it early. -/
lemma scanNumeral_digits (negative : Bool) (n : Nat) :
    scanNumeral negative (Text.digits n) = some (⟨negative, Text.digits n, [], none⟩, []) := by
  have htake : (Text.digits n).takeWhile Char.isDigit = Text.digits n :=
    List.takeWhile_eq_self_iff.mpr fun _ => Text.isDigit_of_mem_digits
  have hdrop : (Text.digits n).dropWhile Char.isDigit = [] :=
    List.dropWhile_eq_nil_iff.mpr fun _ => Text.isDigit_of_mem_digits
  have hzero : ¬ ((Text.digits n).isEmpty ||
      ((Text.digits n).head? = some '0' && (Text.digits n).length ≠ 1)) := by
    simpa [Text.digits_ne_nil] using Text.length_digits_of_head?_eq_zero
  rw [scanNumeral, htake, hdrop, if_neg hzero]
  rfl

lemma Token.scan_decimal (n : Int) : scan (Text.decimal n) = [.number (.ofInt n)] := by
  rcases Int.lt_or_le n 0 with h | h
  · rw [Text.decimal_of_neg h, scan_minus (scanNumeral_digits true n.natAbs), Numeral.ofInt]
    simp [h, scan]
  · rw [Text.decimal_of_nonneg h, Numeral.ofInt]
    have hscan := scanNumeral_digits false n.natAbs
    obtain ⟨c, cs, hcs⟩ := List.exists_cons_of_ne_nil (Text.digits_ne_nil n.natAbs)
    rw [hcs] at hscan ⊢
    rw [scan_digit hscan]
    simp [Int.not_lt.mpr h, scan]

/-! ### Values -/

/-- What is met in the text of a number. -/
def Number.raw : Number → Raw
  | int n => .number (.ofInt n)
  | n => (Raw.ofText (Json.number n).render).1

mutual

/-- What is met in the text of a value. -/
def raw : Json → Raw
  | null => .null
  | bool b => .bool b
  | number n => n.raw
  | string s => .string (some s)
  | array items => .array (itemsRaw items) true
  | object members => .object (membersRaw members) true

def itemsRaw : List Json → List Raw
  | [] => []
  | v :: rest => v.raw :: itemsRaw rest

def membersRaw : List (String × Json) → List (Option String × Raw)
  | [] => []
  | (key, v) :: rest => (some key, v.raw) :: membersRaw rest

end

mutual

def FloatFree : Json → Prop
  | number (.int _) => True
  | number _ => False
  | array items => ItemsFloatFree items
  | object members => MembersFloatFree members
  | _ => True

def ItemsFloatFree : List Json → Prop
  | [] => True
  | v :: rest => v.FloatFree ∧ ItemsFloatFree rest

def MembersFloatFree : List (String × Json) → Prop
  | [] => True
  | (_, v) :: rest => v.FloatFree ∧ MembersFloatFree rest

end

@[simp] lemma itemsFloatFree_iff {items : List Json} :
    ItemsFloatFree items ↔ ∀ v ∈ items, v.FloatFree := by
  induction items with
  | nil => simp [ItemsFloatFree]
  | cons v items ih => simp [ItemsFloatFree, ih]

@[simp] lemma membersFloatFree_iff {members : List (String × Json)} :
    MembersFloatFree members ↔ ∀ m ∈ members, m.2.FloatFree := by
  induction members with
  | nil => simp [MembersFloatFree]
  | cons m members ih => simp [MembersFloatFree, ih]

/-! ### Texts of values -/

namespace Raw

variable {cs ys : List Char} {stop : Char} {closing : Token} {v : Json} {done : List Raw}
  {doneMembers : List (Option String × Raw)}

lemma ofText_of_run {s : String} {v : Raw}
    (h : run .value [] (Token.scan s.toList) = (v, some [])) : ofText s = (v, true) := by
  rw [ofText, h]
  rfl

lemma run_item (hstop : EndsValue stop closing) (hv : ofText v.render = (v.raw, true)) :
    run .value [.array done] (Token.scan (v.chars ++ stop :: ys)) =
      run .separator [.array (v.raw :: done)] (Token.scan (stop :: ys)) := by
  have hchars : v.chars = v.render.toList := String.toList_ofList.symm
  rw [hchars]
  exact run_inside hstop rfl hv

/-- A key, the colon and the value bring the reader behind the value of the member. -/
lemma run_member {key : String} {e : Expected} (he : e = .key ∨ e = .firstKey)
    (hstop : EndsValue stop closing) (hv : ofText v.render = (v.raw, true)) :
    run e [.object doneMembers none]
        (Token.scan (stringChars key ++ ':' :: v.chars ++ stop :: ys)) =
      run .separator [.object ((some key, v.raw) :: doneMembers) none]
        (Token.scan (stop :: ys)) := by
  have hchars : v.chars = v.render.toList := String.toList_ofList.symm
  have hvalue : run .value [.object doneMembers (some (some key))]
      (Token.scan (v.chars ++ stop :: ys)) =
        run .separator [.object ((some key, v.raw) :: doneMembers) none]
          (Token.scan (stop :: ys)) := by
    rw [hchars]
    exact run_inside hstop rfl hv
  rw [List.append_assoc, Token.scan_stringChars, List.cons_append, Token.scan_colon, ← hvalue]
  rcases he with rfl | rfl <;> rfl

lemma run_comma_array : run .separator [.array done] (Token.scan (',' :: cs)) =
    run .value [.array done] (Token.scan cs) := by
  rw [Token.scan_stop .comma]
  rfl

lemma run_comma_object : run .separator [.object doneMembers none] (Token.scan (',' :: cs)) =
    run .key [.object doneMembers none] (Token.scan cs) := by
  rw [Token.scan_stop .comma]
  rfl

lemma run_closeArray : run .separator [.array done] (Token.scan [']']) =
    (array done.reverse true, some []) := by
  rw [Token.scan_stop .array, Token.scan]
  rfl

lemma run_closeObject : run .separator [.object doneMembers none] (Token.scan ['\x7d']) =
    (object doneMembers.reverse true, some []) := by
  rw [Token.scan_stop .object, Token.scan]
  rfl

mutual

/-- The text of a value is read as this value. -/
lemma ofText_render (v : Json) (h : v.FloatFree) : ofText v.render = (v.raw, true) := by
  apply ofText_of_run
  rw [render, String.toList_ofList]
  match v with
  | .null | .bool true | .bool false =>
    simp [chars, Token.scan]
    rfl
  | .number (.int n) =>
    rw [chars, Number.chars, Token.scan_decimal]
    rfl
  | .string s =>
    have hscan := Token.scan_stringChars s []
    rw [List.append_nil] at hscan
    rw [chars, hscan]
    simp [Token.scan]
    rfl
  | .array [] =>
    simp [chars, itemsChars, Token.scan]
    rfl
  | .array (v :: items) =>
    have hitems := run_itemsChars (v :: items) h (List.cons_ne_nil v items) []
    rw [chars, List.cons_append, Token.scan_openArray]
    exact (run_firstItem hitems).trans hitems
  | .object [] =>
    simp [chars, membersChars, Token.scan]
    rfl
  | .object (m :: members) =>
    rw [chars, List.cons_append, Token.scan_openObject]
    exact run_membersChars (m :: members) h (List.cons_ne_nil m members) (.inr rfl) []

/-- Items are read one after the other, and then the end of their array. -/
lemma run_itemsChars (items : List Json) (h : ItemsFloatFree items) (hne : items ≠ [])
    (done : List Raw) :
    run .value [.array done] (Token.scan ([','].intercalate (itemsChars items) ++ [']'])) =
      (array (done.reverse ++ itemsRaw items) true, some []) := by
  match items with
  | [] => exact absurd rfl hne
  | [v] =>
    rw [itemsChars, itemsChars, List.intercalate_singleton, run_item .array (ofText_render v h.1),
      run_closeArray, List.reverse_cons]
    rfl
  | v :: w :: items =>
    rw [itemsChars, itemsChars, List.intercalate_cons_cons, List.append_assoc, List.append_assoc,
      List.singleton_append, run_item .comma (ofText_render v h.1), run_comma_array, ← itemsChars,
      run_itemsChars (w :: items) h.2 (List.cons_ne_nil w items), List.reverse_cons,
      List.append_assoc]
    rfl

/-- Members are read one after the other, and then the end of their object. -/
lemma run_membersChars (members : List (String × Json)) (h : MembersFloatFree members)
    (hne : members ≠ []) {e : Expected} (he : e = .key ∨ e = .firstKey)
    (done : List (Option String × Raw)) :
    run e [.object done none]
        (Token.scan ([','].intercalate (membersChars members) ++ ['\x7d'])) =
      (object (done.reverse ++ membersRaw members) true, some []) := by
  match members with
  | [] => exact absurd rfl hne
  | [(key, v)] =>
    rw [membersChars, membersChars, List.intercalate_singleton,
      run_member he .object (ofText_render v h.1), run_closeObject, List.reverse_cons]
    rfl
  | (key, v) :: (key', w) :: members =>
    rw [membersChars, membersChars, List.intercalate_cons_cons, List.append_assoc,
      List.append_assoc, List.singleton_append, run_member he .comma (ofText_render v h.1),
      run_comma_object, ← membersChars,
      run_membersChars ((key', w) :: members) h.2 (List.cons_ne_nil _ members) (.inl rfl),
      List.reverse_cons, List.append_assoc]
    rfl

end

end Raw

end PlanImport.Json
