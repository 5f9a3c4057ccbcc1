/-!
# The names of output columns

A root lists the names of its output columns in one flat list, in which the names of the fields
of a struct follow the name of its column. The list is gone through from the front.
-/

namespace PlanImport

/-- A list of names of which the first ones have been passed. -/
structure NameStream where
  names : List String
  /-- How many names have been passed. It may exceed their number. -/
  position : Nat
  deriving DecidableEq, Repr

namespace NameStream

/-- The stream of which no name has been passed. -/
def ofList (names : List String) : NameStream := ⟨names, 0⟩

def rest (s : NameStream) : List String := s.names.drop s.position

def isDone (s : NameStream) : Bool := s.names.length ≤ s.position

def head? (s : NameStream) : Option String := s.names[s.position]?

def skip (s : NameStream) : NameStream := { s with position := s.position + 1 }

/-- The next names, if there are so many. -/
def window? (s : NameStream) (count : Nat) : Option (List String) :=
  if s.position + count ≤ s.names.length then some (s.rest.take count) else none

/-- Whether there are so many names left and the next ones differ from each other. -/
def hasDistinct (s : NameStream) (count : Nat) : Bool :=
  match s.window? count with
  | some names => decide names.Nodup
  | none => false

/-- Pass the next names, if there are so many. -/
def take? (s : NameStream) (count : Nat) : Option (List String × NameStream) :=
  (s.window? count).map fun names => (names, { s with position := s.position + count })

end NameStream

end PlanImport
