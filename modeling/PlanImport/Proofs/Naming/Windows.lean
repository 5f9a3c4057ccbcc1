import Mathlib.Algebra.Ring.Nat
import PlanImport.Proofs.Naming.Taken
import PlanImport.Proofs.WellFormed.Expression

/-!
# Names that are handed out

A stream of names is asked to pass a name, whether the next names differ, or for the next names.
It stands after all names that have been passed or handed out, so names that are handed out one
after the other are apart from each other and in their order. An output column passes its own name
and is handed those of its fields if it is a constructed struct that takes them.
-/

namespace PlanImport

open Engine Plan

namespace NameStream

/-! ### Requests -/

/-- What a stream may be asked. -/
inductive Request
  /-- Pass the next name. -/
  | skip
  /-- Whether so many names are left and differ. -/
  | hasDistinct (count : Nat)
  /-- Hand out so many names. -/
  | take (count : Nat)
  deriving DecidableEq

inductive Answer
  | skipped
  | distinct (differ : Bool)
  /-- The names, if there are so many. -/
  | taken (names : Option (List String))

def serve (s : NameStream) : Request → NameStream × Answer
  | .skip => (s.skip, .skipped)
  | .hasDistinct count => (s, .distinct (s.hasDistinct count))
  | .take count =>
    match s.take? count with
    | some (names, rest) => (rest, .taken (some names))
    | none => (s, .taken none)

def after (s : NameStream) (requests : List Request) : NameStream :=
  requests.foldl (fun s request => (s.serve request).1) s

def answers (s : NameStream) : List Request → List Answer
  | [] => []
  | request :: requests => (s.serve request).2 :: (s.serve request).1.answers requests

/-- The number of names that a request is answered with. -/
def Request.granted : Request → Answer → Nat
  | take count, .taken (some _) => count
  | _, _ => 0

variable {s : NameStream} {count : Nat}

/-! ### One request -/

/-- The next names are handed out and passed if there are so many. Otherwise nothing happens. -/
lemma serve_take (s : NameStream) (count : Nat) : s.serve (.take count) =
    if s.position + count ≤ s.names.length then
      (s.pass count, .taken (some (s.rest.take count)))
    else (s, .taken none) := by
  split_ifs with h
  · rw [serve, take?_eq_some_iff.mpr ⟨h, rfl, rfl⟩]
  · rw [serve, take?, window?, if_neg h]
    rfl

lemma taken_iff {names : List String} : (s.serve (.take count)).2 = .taken (some names) ↔
    s.position + count ≤ s.names.length ∧ names = s.rest.take count := by
  rw [serve_take]
  split_ifs with h <;> simp [h, eq_comm]

lemma exists_taken_iff : (∃ names, (s.serve (.take count)).2 = .taken (some names)) ↔
    s.position + count ≤ s.names.length := by
  simp only [taken_iff, exists_and_left, exists_eq, and_true]

/-- Distinct names are there exactly if taking so many would hand out names that differ. -/
lemma serve_hasDistinct_iff : (s.serve (.hasDistinct count)).2 = .distinct true ↔
    ∃ names, (s.serve (.take count)).2 = .taken (some names) ∧ names.Nodup := by
  rw [serve, Answer.distinct.injEq, hasDistinct_iff]
  simp only [taken_iff]
  constructor
  · rintro ⟨hle, hd⟩
    exact ⟨_, ⟨hle, rfl⟩, hd⟩
  · rintro ⟨_, ⟨hle, rfl⟩, hd⟩
    exact ⟨hle, hd⟩

lemma names_serve (s : NameStream) (request : Request) :
    (s.serve request).1.names = s.names := by
  cases request with
  | skip | hasDistinct => rfl
  | take count =>
    rw [serve_take]
    split_ifs <;> rfl

/-- A request passes one name, those that it is answered with, or none. -/
lemma position_serve (s : NameStream) (request : Request) : (s.serve request).1.position =
    s.position + (if request = .skip then 1 else 0) +
      request.granted (s.serve request).2 := by
  cases request with
  | skip | hasDistinct => rfl
  | take count =>
    rw [serve_take, if_neg (nofun : Request.take count ≠ .skip)]
    split_ifs <;> rfl

/-! ### Requests one after the other -/

lemma after_cons (s : NameStream) (request : Request) (requests : List Request) :
    s.after (request :: requests) = (s.serve request).1.after requests := rfl

lemma names_after (s : NameStream) (requests : List Request) :
    (s.after requests).names = s.names := by
  induction requests generalizing s with
  | nil => rfl
  | cons request requests ih => rw [after_cons, ih, names_serve]

/-- What has been passed is the names that were skipped and those that were handed out. -/
lemma position_after (s : NameStream) (requests : List Request) : (s.after requests).position =
    s.position + requests.count .skip +
      (List.zipWith Request.granted requests (s.answers requests)).sum := by
  induction requests generalizing s with
  | nil => rfl
  | cons request requests ih =>
    rw [after_cons, ih, position_serve, answers, List.zipWith_cons_cons, List.sum_cons,
      List.count_cons]
    simp only [beq_iff_eq]
    omega

lemma position_le_position_after (s : NameStream) (requests : List Request) :
    s.position ≤ (s.after requests).position := by
  rw [position_after]
  omega

/-- Names that are handed out later start after those that were handed out before. -/
lemma add_le_position_after {names : List String}
    (h : (s.serve (.take count)).2 = .taken (some names)) (between : List Request) :
    s.position + count ≤ (s.after (.take count :: between)).position := by
  calc s.position + count
    _ = (s.serve (.take count)).1.position := by rw [position_serve, h]; rfl
    _ ≤ (s.after (.take count :: between)).position := position_le_position_after _ between

end NameStream

/-! ### Columns -/

namespace Plan

open NameStream

variable {functions : FunctionTable} {s rest : NameStream} {e : Expression}

/-- Only in an output column a struct is given named fields. -/
lemma Expression.lower_ne_struct {e' : Expr} (h : e.lower functions = .ok e')
    (fields : List (String × Expr)) : e' ≠ .struct fields := by
  rintro rfl
  have := e.wellFormed_lower h
  rwa [Expr.WellFormed] at this

/-- A struct with named fields has been handed their names right after the name of its column. -/
lemma Expression.serve_of_lowerColumn {fields : List (String × Expr)}
    (h : e.lowerColumn functions s = (.ok (.struct fields), rest)) :
    s.skip.serve (.take fields.length) = (rest, .taken (some (fields.map Prod.fst))) := by
  rw [e.lowerColumn_eq] at h
  cases hlower : e.lower functions with
  | error refusal =>
    rw [hlower] at h
    cases h
  | ok e' =>
    rw [hlower] at h
    obtain ⟨hstruct, rfl⟩ := Prod.mk.inj h
    obtain hsame | ⟨columns, names, rest, rfl, hnames, hnamed⟩ := s.nameColumn_cases e'
    · rw [hsame] at hstruct
      exact absurd (Except.ok.inj hstruct) (lower_ne_struct hlower fields)
    · rw [hnamed] at hstruct ⊢
      obtain rfl := Expr.struct.inj (Except.ok.inj hstruct)
      have hlength := length_fieldNames? hnames
      obtain ⟨-, hle, -, rfl, rfl⟩ := fieldNames?_eq_some_iff.mp hnames
      rw [List.length_zip, hlength, Nat.min_self, List.map_fst_zip (Nat.le_of_eq hlength),
        serve_take, if_pos hle]

/-- Any other column passes its own name only, and so does one that is refused. -/
lemma Expression.skip_of_lowerColumn {result : Except Refusal Expr}
    (h : e.lowerColumn functions s = (result, rest))
    (hstruct : ∀ fields, result ≠ .ok (.struct fields)) : rest = s.skip := by
  rw [e.lowerColumn_eq] at h
  cases hlower : e.lower functions with
  | error refusal =>
    rw [hlower] at h
    exact (Prod.mk.inj h).2.symm
  | ok e' =>
    rw [hlower] at h
    obtain ⟨rfl, rfl⟩ := Prod.mk.inj h
    obtain hsame | ⟨columns, names, rest, -, -, hnamed⟩ := s.nameColumn_cases e'
    · rw [hsame]
    · exact absurd (by rw [hnamed]) (hstruct (names.zip columns))

/-- A constructed struct takes names for its fields if a name is left and the next ones differ. -/
lemma exists_lowerColumn_nestedStruct_iff {es : List Expression} {columns : List Expr}
    (h : lowerAll functions es = .ok columns) :
    (∃ fields, ((Expression.nestedStruct es).lowerColumn functions s).1 = .ok (.struct fields)) ↔
      s.skip.position < s.names.length ∧
        (s.skip.serve (.hasDistinct columns.length)).2 = .distinct true := by
  have hlower : (Expression.nestedStruct es).lower functions = .ok (.row columns) := by
    rw [Expression.lower, h]
    rfl
  have hnames : (∃ names rest, s.skip.fieldNames? columns.length = some (names, rest)) ↔
      s.skip.position < s.names.length ∧
        (s.skip.serve (.hasDistinct columns.length)).2 = .distinct true := by
    rw [serve, Answer.distinct.injEq, hasDistinct_iff]
    simp only [fieldNames?_eq_some_iff]
    constructor
    · rintro ⟨_, _, hpos, hle, hd, -, -⟩
      exact ⟨hpos, hle, hd⟩
    · rintro ⟨hpos, hle, hd⟩
      exact ⟨_, _, hpos, hle, hd, rfl, rfl⟩
  rw [← hnames, Expression.lowerColumn_eq, hlower]
  dsimp only
  rw [nameColumn]
  cases s.skip.fieldNames? columns.length with
  | none => simp
  | some window =>
    obtain ⟨names, rest⟩ := window
    simp

end Plan

/-! ### Names in order -/

namespace NameStream

/-- How a stream of names hands them out. -/
structure HandsOutInOrder : Prop where
  /-- The list of names stays, and what has been passed is the names that were skipped and those
  that were handed out. -/
  after : ∀ (names : List String) (requests : List Request),
    ((ofList names).after requests).names = names ∧
      ((ofList names).after requests).position = requests.count .skip +
        (List.zipWith Request.granted requests ((ofList names).answers requests)).sum
  /-- The next names are handed out if there are so many, and if not the stream stays. -/
  take : ∀ (s : NameStream) (count : Nat), s.serve (.take count) =
    if s.position + count ≤ s.names.length then
      (s.pass count, .taken (some ((s.names.drop s.position).take count)))
    else (s, .taken none)
  /-- Where positions have 64 bits, the names must also end at such a position. -/
  take_iff : ∀ (s : NameStream) (count : Nat), s.names.length < 2 ^ 64 →
    ((∃ names, (s.serve (.take count)).2 = .taken (some names)) ↔
      s.position + count < 2 ^ 64 ∧ s.position + count ≤ s.names.length)
  /-- Asking whether the next names differ only tells if names that differ would be handed out. -/
  hasDistinct : ∀ (s : NameStream) (count : Nat), (s.serve (.hasDistinct count)).1 = s ∧
    ((s.serve (.hasDistinct count)).2 = .distinct true ↔
      ∃ names, (s.serve (.take count)).2 = .taken (some names) ∧ names.Nodup)
  /-- Names that are handed out later have their places after those that were handed out before. -/
  disjoint : ∀ (s s' : NameStream) (m n : Nat) (names names' : List String)
    (between : List Request), s' = s.after (.take m :: between) →
      (s.serve (.take m)).2 = .taken (some names) → (s'.serve (.take n)).2 = .taken (some names') →
        names = (s.names.drop s.position).take m ∧
          names' = (s.names.drop s'.position).take n ∧ s.position + m ≤ s'.position
  /-- A struct with named fields passes the name of its column and is handed the names of its
  fields right after it. -/
  struct : ∀ (functions : FunctionTable) (s rest : NameStream) (e : Expression)
    (fields : List (String × Expr)),
    e.lowerColumn functions s = (.ok (.struct fields), rest) →
      s.skip.serve (.take fields.length) = (rest, .taken (some (fields.map Prod.fst))) ∧
        rest.position = s.position + 1 + fields.length
  /-- Every other column, one that is refused included, passes the name of its column. -/
  column : ∀ (functions : FunctionTable) (s rest : NameStream) (e : Expression)
    (result : Except Refusal Expr), e.lowerColumn functions s = (result, rest) →
      (∀ fields, result ≠ .ok (.struct fields)) →
        rest = s.skip ∧ rest.position = s.position + 1
  /-- A constructed struct takes names exactly if a name is left and the next ones differ. -/
  named : ∀ (functions : FunctionTable) (s : NameStream) (es : List Expression)
    (columns : List Expr), lowerAll functions es = .ok columns →
      ((∃ fields,
          ((Expression.nestedStruct es).lowerColumn functions s).1 = .ok (.struct fields)) ↔
        s.skip.position < s.names.length ∧
          (s.skip.serve (.hasDistinct columns.length)).2 = .distinct true)

/-- A stream hands out names in order, none of them twice, and an output column gets its own. -/
theorem handsOutInOrder : HandsOutInOrder where
  after names requests := by
    refine ⟨names_after _ requests, ?_⟩
    rw [position_after, ofList, Nat.zero_add]
  take s count := serve_take s count
  take_iff s count hlength := by
    rw [exists_taken_iff]
    omega
  hasDistinct s count := ⟨rfl, serve_hasDistinct_iff⟩
  disjoint s s' m n names names' between hs' h h' := by
    have hnames : s'.names = s.names := hs' ▸ names_after s _
    refine ⟨(taken_iff.mp h).2, ?_, hs' ▸ add_le_position_after h between⟩
    rw [← hnames]
    exact (taken_iff.mp h').2
  struct functions s rest e fields h := by
    have hserve := e.serve_of_lowerColumn h
    have hposition := s.skip.position_serve (.take fields.length)
    rw [hserve] at hposition
    exact ⟨hserve, hposition⟩
  column functions s rest e result h hstruct := by
    obtain rfl := e.skip_of_lowerColumn h hstruct
    exact ⟨rfl, rfl⟩
  named functions s es columns h := exists_lowerColumn_nestedStruct_iff h

/-- Two fields take the names after that of their column, and the next name is the one after. -/
theorem handsOutInOrder_two_fields :
    (Expression.nestedStruct [.selection (.structField 1 false),
        .selection (.structField 0 false)]).lowerColumn .empty (ofList ["s", "a", "b", "a"]) =
      (.ok (.struct [("a", .column 2), ("b", .column 1)]), ⟨["s", "a", "b", "a"], 3⟩) ∧
    (ofList ["s", "a", "b", "a"]).skip.serve (.take 2) =
      (⟨["s", "a", "b", "a"], 3⟩, .taken (some ["a", "b"])) ∧
    ["a"] = (["s", "a", "b", "a"].drop 3).take 1 := by
  have hcolumn : (Expression.nestedStruct [.selection (.structField 1 false),
        .selection (.structField 0 false)]).lowerColumn .empty (ofList ["s", "a", "b", "a"]) =
      (.ok (.struct [("a", .column 2), ("b", .column 1)]), ⟨["s", "a", "b", "a"], 3⟩) := rfl
  obtain ⟨hserve, -⟩ := handsOutInOrder.struct _ _ _ _ _ hcolumn
  have hnext := handsOutInOrder.disjoint _ _ 2 1 ["a", "b"] ["a"] [] rfl
    (congrArg Prod.snd hserve) rfl
  exact ⟨hcolumn, hserve, hnext.2.1⟩

end NameStream

end PlanImport
