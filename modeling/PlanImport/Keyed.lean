/-!
# Keyed values

Values under keys, no key twice: what is put under a key takes the place of what was there.
-/

namespace PlanImport

/-- Values under keys. -/
structure Keyed (κ α : Type) where
  /-- Each key with its value, the latest first. -/
  entries : List (κ × α)
  /-- No key is there twice. -/
  nodup : (entries.map Prod.fst).Nodup
  deriving Repr

namespace Keyed

variable {κ α : Type}

def empty : Keyed κ α := ⟨[], .nil⟩

instance : Inhabited (Keyed κ α) := ⟨empty⟩

def size (t : Keyed κ α) : Nat := t.entries.length

def isEmpty (t : Keyed κ α) : Bool := t.entries.isEmpty

variable [DecidableEq κ]

/-- Put a value under a key in place of any other there. -/
def insert (t : Keyed κ α) (key : κ) (a : α) : Keyed κ α where
  entries := (key, a) :: t.entries.filter fun e => !decide (e.1 = key)
  nodup := by
    refine List.nodup_cons.2 ⟨by simp, ?_⟩
    exact t.nodup.sublist ((List.filter_sublist).map Prod.fst)

def get? (t : Keyed κ α) (key : κ) : Option α := t.entries.lookup key

@[simp] theorem get?_empty (key : κ) : (empty : Keyed κ α).get? key = none := rfl

theorem lookup_filter_ne {key other : κ} (h : other ≠ key) (es : List (κ × α)) :
    (es.filter fun e => !decide (e.1 = key)).lookup other = es.lookup other := by
  induction es with
  | nil => rfl
  | cons e es ih =>
    by_cases he : e.1 = key
    · have hne : (other == e.1) = false := by simpa [he] using h
      rw [List.filter_cons_of_neg (by simp [he]), ih, List.lookup_cons, hne]
    · rw [List.filter_cons_of_pos (by simp [he]), List.lookup_cons, List.lookup_cons, ih]

theorem get?_insert (t : Keyed κ α) (key other : κ) (a : α) :
    (t.insert key a).get? other = if other = key then some a else t.get? other := by
  by_cases h : other = key
  · simp [get?, insert, h]
  · have hne : (other == key) = false := by simpa using h
    rw [get?, insert, List.lookup_cons, hne, lookup_filter_ne h, if_neg h, get?]

end Keyed

end PlanImport
