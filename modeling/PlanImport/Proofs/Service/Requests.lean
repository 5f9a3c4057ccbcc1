import Mathlib.Data.List.Basic
import PlanImport.Proofs.Plan.Formats
import PlanImport.Proofs.Scans.LockMode
import PlanImport.Service.Request

/-!
# Requests that follow each other

A call changes the state only by a table that it adds, and its answer depends on nothing but its
body, the tables that were added before it and the lock that is configured. So the calls that add no
table leave no trace in the answers to others, whatever the decoders say of a body that they refuse.
-/

namespace PlanImport.Service

open Engine Lowering

/-! ### Calls -/

/-- The table that a registration adds if it has a name. -/
def Registration.table? (r : Registration) : Option TableInfo :=
  if r.name.isEmpty then none else some ⟨r.schema.getD defaultSchema, r.name, r.columns⟩

inductive Call
  | request (r : Request)
  /-- Add a table, from the text of the request. -/
  | registration (text : String)
  /-- Look up a table. -/
  | table (schema name : String)
  /-- Look up a view. -/
  | view (schema name : String)

inductive Answer
  | response (r : Response)
  | found (result : Except NotFound TableInfo)

namespace Call

def registration? : Call → Option Registration
  | request (.register r) => some r
  | registration text => Registration.ofText? text
  | _ => none

def addedTable? (call : Call) : Option TableInfo := call.registration?.bind Registration.table?

/-- A call that adds a table. -/
def Adds (call : Call) : Prop := call.addedTable?.isSome

instance : DecidablePred Adds := fun call => inferInstanceAs (Decidable (call.addedTable?.isSome))

/-- A call to lower a plan, in either format. -/
inductive Translates : Call → Prop
  | bytes (bytes : List UInt8) : Translates (request (.planBytes bytes))
  | text (text : String) : Translates (request (.planText text))

/-- The plan that a call asks to lower. -/
def plan? : Call → Option Plan
  | request (.planBytes bytes) => Plan.ofBytes? bytes
  | request (.planText text) => (Plan.ofText text).toOption
  | _ => none

end Call

namespace State

def serve (d : Decoders) (s : State) : Call → State × Answer
  | .request r => ((s.handle d r).1, .response (s.handle d r).2)
  | .registration text =>
    match Registration.ofText? text with
    | some r => ((s.register r).1, .response (s.register r).2)
    | none => (s, .response (d.registrationRefusal text))
  | .table schema name => (s, .found (s.catalog.findTable schema name))
  | .view schema name => (s, .found (s.catalog.findView schema name))

def after (d : Decoders) (s : State) (calls : List Call) : State :=
  calls.foldl (fun s call => (s.serve d call).1) s

def answers (d : Decoders) (s : State) : List Call → List Answer
  | [] => []
  | call :: calls => (s.serve d call).2 :: (s.serve d call).1.answers d calls

end State

/-- The answer to a plan that has been lowered. -/
def Response.ofLowering : Except Refusal Relation → Response
  | .ok r => .ok (.object [("relation", r.toJson), ("explain", .string r.explain)])
  | .error e => .badRequest ("Failed to translate plan: " ++ e.message)

open State in
/-- From the first one on, calls get in each other's way only by the tables that they add. -/
structure Undisturbed (d : Decoders) (config : Config) (calls : List Call) : Prop where
  /-- The settings stay as they are, and the catalog is what the registrations of tables with a name
  make of the empty one, in their order. -/
  after_eq : (initial config).after d calls =
    ⟨(calls.filterMap Call.addedTable?).foldl Catalog.insertTable .empty, config⟩
  /-- A plan is answered as by a service with the same lock to which only the tables have been added
  before. -/
  answer_eq : ∀ before call later, calls = before ++ call :: later → call.Translates →
    ∀ config', config'.acquireLock = config.acquireLock →
      ((initial config).answers d calls)[before.length]? =
        some (((initial config').after d (before.filter (·.Adds))).serve d call).2
  /-- Without a call that adds no table all other answers are the same. -/
  answers_without : ∀ before call later, calls = before ++ call :: later → ¬ call.Adds →
    (initial config).answers d (before ++ later) =
      ((initial config).answers d calls).eraseIdx before.length
  /-- Plans that follow each other may be exchanged with their answers. -/
  answers_exchanged : ∀ before first second later, calls = before ++ first :: second :: later →
    first.Translates → second.Translates → ∃ answersBefore answer answer' answersLater,
      answersBefore.length = before.length ∧
      (initial config).answers d calls = answersBefore ++ answer :: answer' :: answersLater ∧
      (initial config).answers d (before ++ second :: first :: later) =
        answersBefore ++ answer' :: answer :: answersLater
  /-- The scans of each plan are numbered from zero. -/
  numbers : ∀ before call later plan, calls = before ++ call :: later → call.plan? = some plan →
    ∃ result k, ((LoweringContext.ofPlan plan ((initial config).after d before).catalog
        config.acquireLock defaultSchema).lowerPlan plan).runFrom 0 = (result, k) ∧
      ((initial config).answers d calls)[before.length]? =
        some (.response (.ofLowering result)) ∧
      ∀ r, result = .ok r → r.scanNumbers? = some (List.range k)

namespace Call

lemma Translates.addedTable?_eq_none {call : Call} (h : call.Translates) :
    call.addedTable? = none := by
  cases h <;> rfl

lemma Translates.not_adds {call : Call} (h : call.Translates) : ¬ call.Adds := by
  rw [Adds, h.addedTable?_eq_none]
  simp

lemma addedTable?_eq_none {call : Call} (h : ¬ call.Adds) : call.addedTable? = none := by
  rwa [Adds, Option.not_isSome_iff_eq_none] at h

/-- Calls that add nothing may be left out when the tables are counted. -/
lemma filterMap_addedTable?_filter (calls : List Call) :
    (calls.filter (·.Adds)).filterMap addedTable? = calls.filterMap addedTable? := by
  rw [List.filterMap_filter]
  congr 1
  funext call
  by_cases h : call.Adds
  · simp [h]
  · simp [h, addedTable?_eq_none h]

end Call

namespace State

variable {d : Decoders} {s s' : State} {call : Call}

/-! ### One call -/

lemma register_fst (s : State) (r : Registration) :
    (s.register r).1 = ⟨r.table?.toList.foldl Catalog.insertTable s.catalog, s.config⟩ := by
  rw [register, Registration.table?]
  split_ifs <;> rfl

/-- A call changes nothing but the catalog, and that only by the table that it adds. -/
lemma serve_fst (d : Decoders) (s : State) (call : Call) :
    (s.serve d call).1 =
      ⟨call.addedTable?.toList.foldl Catalog.insertTable s.catalog, s.config⟩ := by
  cases call with
  | table schema name => rfl
  | view schema name => rfl
  | registration text =>
    simp only [serve, Call.addedTable?, Call.registration?]
    cases Registration.ofText? text with
    | none => rfl
    | some r => exact s.register_fst r
  | request r =>
    cases r with
    | health => rfl
    | planBytes bytes =>
      simp only [serve, handle]
      split <;> rfl
    | planText text =>
      simp only [serve, handle]
      split <;> rfl
    | register r => exact s.register_fst r

lemma serve_fst_of_not_adds (h : ¬ call.Adds) : (s.serve d call).1 = s := by
  rw [serve_fst, Call.addedTable?_eq_none h]
  rfl

lemma answerPlan_eq (s : State) (p : Plan) :
    s.answerPlan p = .ofLowering (((LoweringContext.ofPlan p s.catalog s.config.acquireLock
      defaultSchema).lowerPlan p).runFrom 0).1 := by
  rw [answerPlan, runFrom]
  split <;> rename_i h <;> rw [h] <;> rfl

/-- A body that holds a plan is answered as the plan is. -/
lemma serve_snd_of_plan? {p : Plan} (h : call.plan? = some p) :
    (s.serve d call).2 = .response (s.answerPlan p) := by
  cases call with
  | registration _ | table _ _ | view _ _ => cases h
  | request r =>
    cases r with
    | health | register _ => cases h
    | planBytes bytes => rw [serve, handle, show Plan.ofBytes? bytes = some p from h]
    | planText text =>
      rw [Call.plan?] at h
      cases htext : Plan.ofText text with
      | error e =>
        rw [htext] at h
        cases h
      | ok q =>
        rw [htext] at h
        cases h
        obtain ⟨m, hm, rfl⟩ := Plan.ofText_eq_ok_iff.mp htext
        rw [serve, handle, hm]

/-- The answer to a plan depends on the catalog and the lock alone, and that to a body which holds
no plan on the body. -/
lemma serve_snd_eq (h : call.Translates) (hcatalog : s.catalog = s'.catalog)
    (hlock : s.config.acquireLock = s'.config.acquireLock) :
    (s.serve d call).2 = (s'.serve d call).2 := by
  have hplan : ∀ p, s.answerPlan p = s'.answerPlan p := by
    intro p
    rw [answerPlan, answerPlan, hcatalog, hlock]
  cases h with
  | bytes bytes =>
    simp only [serve, handle]
    split
    · rw [hplan]
    · rfl
  | text text =>
    simp only [serve, handle]
    split
    · rw [hplan]
    · rfl

/-! ### Calls one after the other -/

/-- What calls leave behind is the tables that they have added. -/
lemma after_eq (d : Decoders) (s : State) (calls : List Call) :
    s.after d calls =
      ⟨(calls.filterMap Call.addedTable?).foldl Catalog.insertTable s.catalog, s.config⟩ := by
  induction calls generalizing s with
  | nil => rfl
  | cons call calls ih =>
    rw [after, List.foldl_cons, ← after, ih, serve_fst, List.filterMap_cons]
    cases call.addedTable? <;> rfl

lemma length_answers (d : Decoders) (s : State) (calls : List Call) :
    (s.answers d calls).length = calls.length := by
  induction calls generalizing s with
  | nil => rfl
  | cons call calls ih => rw [answers, List.length_cons, ih, List.length_cons]

lemma answers_append (d : Decoders) (s : State) (calls calls' : List Call) :
    s.answers d (calls ++ calls') = s.answers d calls ++ (s.after d calls).answers d calls' := by
  induction calls generalizing s with
  | nil => rfl
  | cons call calls ih => rw [List.cons_append, answers, ih]; rfl

/-- A call is answered in the state that the calls before it have left. -/
lemma getElem?_answers (d : Decoders) (s : State) (before : List Call) (call : Call)
    (later : List Call) :
    (s.answers d (before ++ call :: later))[before.length]? =
      some ((s.after d before).serve d call).2 := by
  rw [answers_append, answers, ← s.length_answers d before,
    List.getElem?_append_right (Nat.le_refl _), Nat.sub_self, List.getElem?_cons_zero]

/-- Two calls that add no table and follow each other are answered in the same state. -/
lemma answers_append_pair {first second : Call} (hfirst : ¬ first.Adds) (hsecond : ¬ second.Adds)
    (before later : List Call) :
    s.answers d (before ++ first :: second :: later) = s.answers d before ++
      ((s.after d before).serve d first).2 :: ((s.after d before).serve d second).2 ::
        (s.after d before).answers d later := by
  rw [answers_append, answers, answers, serve_fst_of_not_adds hfirst,
    serve_fst_of_not_adds hsecond]

/-- Whatever is asked in whatever order, and whatever the decoders say of bodies that they refuse,
calls disturb each other only by the tables that they add. -/
theorem undisturbed (d : Decoders) (config : Config) (calls : List Call) :
    Undisturbed d config calls := by
  constructor
  · exact (initial config).after_eq d calls
  · rintro before call later rfl hcall config' hlock
    rw [getElem?_answers]
    refine congrArg some (serve_snd_eq hcall ?_ ?_)
    · rw [after_eq, after_eq, Call.filterMap_addedTable?_filter]
      rfl
    · rw [after_eq, after_eq]
      exact hlock.symm
  · -- A call that adds nothing leaves the state as it is, so the calls after it start from there.
    rintro before call later rfl hcall
    rw [answers_append, answers_append, answers, serve_fst_of_not_adds hcall,
      ← (initial config).length_answers d before,
      List.eraseIdx_append_of_length_le (Nat.le_refl _), Nat.sub_self, List.eraseIdx_cons_zero]
  · rintro before first second later rfl hfirst hsecond
    exact ⟨_, _, _, _, length_answers d _ before,
      answers_append_pair hfirst.not_adds hsecond.not_adds before later,
      answers_append_pair hsecond.not_adds hfirst.not_adds before later⟩
  · rintro before call later p rfl hp
    rcases hrun : ((LoweringContext.ofPlan p ((initial config).after d before).catalog
      config.acquireLock defaultSchema).lowerPlan p).runFrom 0 with ⟨result, k⟩
    refine ⟨result, k, rfl, ?_, ?_⟩
    · have hconfig : ((initial config).after d before).config = config := by
        rw [after_eq]
        rfl
      rw [getElem?_answers, serve_snd_of_plan? hp, answerPlan_eq, hconfig, hrun]
    · rintro r rfl
      rw [List.range_eq_range']
      exact (LoweringContext.numbered_lowerPlan hrun).2

/-- Decoders with one wording for each kind of fault. -/
def terseDecoders : Decoders where
  bytesFault _ := "failed to decode Protobuf message: invalid tag value: 0"
  syntaxFault _ := "expected value at line 1 column 1"
  shapePlace _ := " at line 1 column 1"
  registrationRefusal _ := ⟨422, "Failed to deserialize the JSON body into the target type"⟩

open LoweringContext (readings readingsPlan readingsProduct runFrom_lowerPlan_readingsPlan)

/-- The call to lower the product of the readings and a file from its bytes. -/
def readingsCall : Call := .request (.planBytes
  [26, 33, 10, 31, 98, 29, 18, 14, 10, 12, 58, 10, 10, 8, 114, 101, 97, 100, 105, 110, 103, 115, 26,
    11, 10, 9, 50, 7, 10, 5, 26, 1, 102, 74, 0])

lemma plan?_readingsCall : readingsCall.plan? = some readingsPlan := by
  with_unfolding_all rfl

/-- The call to add the readings. -/
def addReadings : Call := .request (.register ⟨none, "readings", [⟨"value", .integer⟩]⟩)

/-- The plan is refused at first and lowered once the table has been added. A body between them that
is no plan leaves no trace. -/
theorem undisturbed_readings :
    addReadings.Adds ∧ readingsCall.Translates ∧ readingsCall.plan? = some readingsPlan ∧
      ((initial .default).answers terseDecoders
          [readingsCall, .request (.planBytes [0]), addReadings, readingsCall])[3]? =
        some (.response (.ofLowering (.ok (readingsProduct .acquire)))) ∧
      (initial .default).answers terseDecoders [readingsCall, addReadings, readingsCall] =
        ((initial .default).answers terseDecoders
          [readingsCall, .request (.planBytes [0]), addReadings, readingsCall]).eraseIdx 1 := by
  have h := undisturbed terseDecoders .default
    [readingsCall, .request (.planBytes [0]), addReadings, readingsCall]
  have hcatalog : ((initial .default).after terseDecoders
      [readingsCall, .request (.planBytes [0]), addReadings]).catalog =
      Catalog.empty.insertTable readings := by
    rw [after_eq]
    rfl
  obtain ⟨result, k, hrun, hanswer, -⟩ := h.numbers
    [readingsCall, .request (.planBytes [0]), addReadings] readingsCall [] _ rfl plan?_readingsCall
  rw [hcatalog] at hrun
  cases (runFrom_lowerPlan_readingsPlan true).symm.trans hrun
  exact ⟨rfl, .bytes _, plan?_readingsCall, hanswer,
    h.answers_without [readingsCall] (.request (.planBytes [0])) _ rfl (by decide)⟩

end State

end PlanImport.Service
