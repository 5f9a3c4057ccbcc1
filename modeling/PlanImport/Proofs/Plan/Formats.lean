import PlanImport.Lowering.Root
import PlanImport.Plan.Formats
import PlanImport.Proofs.Binary.Recode
import PlanImport.Proofs.Json.Depth
import PlanImport.Proofs.Json.Typed
import PlanImport.Proofs.Lowering.Run

/-!
# Plans in either format

A plan that is read from a JSON text can be written in the binary format and read back from there,
and is lowered as before, unless messages are nested more deeply in it than the binary format
allows. A JSON text may nest somewhat more deeply than that.
-/

namespace PlanImport

open Schema Json

namespace Plan

variable {text : String} {m : Message}

lemma ofText_eq_ok_iff {p : Plan} :
    ofText text = .ok p ↔ ∃ m, Message.ofText .plan text = .ok m ∧ .ofMessage m = p := by
  rw [ofText, mapError_eq_ok, map_eq_ok]

/-- A plan that a text holds is read from its bytes as the same plan exactly if messages are nested
no more deeply in it than the binary format allows. -/
lemma ofBytes?_encode_eq_some_iff {p : Plan} (h : Message.ofText .plan text = .ok m)
    (hsize : (m.encode .plan).length < 2 ^ 64) :
    ofBytes? (m.encode .plan) = some p ↔ m.nesting ≤ Message.maxNesting ∧ .ofMessage m = p := by
  rw [ofBytes?, Option.map_eq_some_iff]
  simp only [Message.decode_encode_eq_some_iff (Message.hasType_ofText h) hsize]
  constructor
  · rintro ⟨_, ⟨rfl, hnesting⟩, hp⟩
    exact ⟨hnesting, hp⟩
  · rintro ⟨hnesting, hp⟩
    exact ⟨m, ⟨rfl, hnesting⟩, hp⟩

/-- The bytes of a plan that a text holds are those of a plan exactly if messages are nested no more
deeply in it than the binary format allows. The plan of the text and that of the bytes are then
lowered alike, to the same relation or with the same refusal, in every catalog, with or without
the lock and from every number for the next scan. No byte string of a memory has `2 ^ 64` bytes, so
the limit on the length excludes none. -/
theorem ofBytes?_encode_of_ofText (h : Message.ofText .plan text = .ok m)
    (hsize : (m.encode .plan).length < 2 ^ 64) :
    ((∃ p, ofBytes? (m.encode .plan) = some p) ↔ m.nesting ≤ Message.maxNesting) ∧
    ∀ p, ofBytes? (m.encode .plan) = some p → ∃ p', ofText text = .ok p' ∧
      ∀ catalog acquireLock defaultSchema n,
        ((LoweringContext.ofPlan p catalog acquireLock defaultSchema).lowerPlan p).runFrom n =
          ((LoweringContext.ofPlan p' catalog acquireLock defaultSchema).lowerPlan p').runFrom n := by
  simp only [ofBytes?_encode_eq_some_iff h hsize]
  constructor
  · constructor
    · rintro ⟨p, hnesting, -⟩
      exact hnesting
    · intro hnesting
      exact ⟨_, hnesting, rfl⟩
  · rintro p ⟨-, rfl⟩
    exact ⟨_, ofText_eq_ok_iff.mpr ⟨m, h, rfl⟩, fun _ _ _ _ => rfl⟩

/-! ### Fetches of fetches -/

/-- The text of a read of a table with so many fetches around it. -/
def fetchesText : Nat → String
  | 0 => Raw.objectText [("read", Raw.objectText [("namedTable",
      Raw.objectText [("names", Raw.itemText "\"t\"")])])]
  | n + 1 => Raw.objectText [("fetch", Raw.objectText [("input", fetchesText n)])]

/-- The text of the plan of these fetches. -/
def fetchesPlanText (n : Nat) : String :=
  Raw.objectText [("relations", Raw.itemText (Message.planRelText (fetchesText n)))]

/-- What is met in the text of the fetches. -/
def fetchesRaw : Nat → Raw
  | 0 => .object [(some "read", .object [(some "namedTable", .object [(some "names",
      .array [.string (some "t")] true)] true)] true)] true
  | n + 1 => .object [(some "fetch", .object [(some "input", fetchesRaw n)] true)] true

def fetchesJson : Nat → Json
  | 0 => .object [("read", .object [("namedTable", .object [("names",
      .array [.string "t"])])])]
  | n + 1 => .object [("fetch", .object [("input", fetchesJson n)])]

def fetches : Nat → Message
  | 0 => ⟨[.chosenMessage 1 ⟨[.message none, .message none, .chosenMessage 7 ⟨[.strings ["t"]]⟩]⟩]⟩
  | n + 1 => ⟨[.chosenMessage 3
      ⟨[.message (some (fetches n)), .scalar (.int64 0), .scalar (.int64 0)]⟩]⟩

lemma ofText_fetchesText (n : Nat) : Raw.ofText (fetchesText n) = (fetchesRaw n, true) := by
  induction n with
  | zero =>
    have ht : Raw.ofText "\"t\"" = (.string (some "t"), true) := by cbv
    exact Raw.ofText_objectText_singleton (Raw.ofText_objectText_singleton
      (Raw.ofText_objectText_singleton (Raw.ofText_itemText ht)))
  | succ n ih => exact Raw.ofText_objectText_singleton (Raw.ofText_objectText_singleton ih)

/-- Each fetch opens two containers, and the read at the bottom four. -/
lemma value?_fetchesRaw (n k : Nat) :
    (fetchesRaw n).value? (2 * n + 4 + k) = some (fetchesJson n) := by
  induction n generalizing k with
  | zero =>
    rw [Nat.mul_zero, Nat.zero_add, Nat.add_comm]
    rfl
  | succ n ih =>
    have hdepth : 2 * (n + 1) + 4 + k = 2 * n + 4 + k + 1 + 1 := by omega
    rw [hdepth]
    simp [fetchesRaw, Raw.value?, Raw.memberValues?, ih]
    rfl

/-- A fetch of what is read as a relation. -/
lemma message_fetch {j : Json} (hnull : j.isNull = false) (h : j.reading.message .rel = .ok m) :
    (object [("fetch", object [("input", j)])]).reading.message .rel =
      .ok ⟨[.chosenMessage 3 ⟨[.message (some m), .scalar (.int64 0), .scalar (.int64 0)]⟩]⟩ := by
  have hinput : j.reading.field (.message .rel) = .ok (.message (some m)) := by
    rw [Reading.field, isNull_reading, hnull, h]
    rfl
  have hfetch : (object [("input", j)]).reading.message .fetchRel =
      .ok ⟨[.message (some m), .scalar (.int64 0), .scalar (.int64 0)]⟩ :=
    Reading.ofMembers_eq_ok_iff_fill.mpr ⟨rfl, _, [], Reading.fillFields_cons_eq_ok_iff.mpr
      ⟨"input", rfl, List.not_mem_nil, _, hinput, rfl⟩, rfl⟩
  refine Reading.ofMembers_eq_ok_iff_fill.mpr ⟨rfl, _, _, Reading.fillFields_cons_eq_ok_iff.mpr
    ⟨"fetch", rfl, _, [], rfl, rfl, rfl⟩, bind_eq_ok.mpr ⟨_, ?_, rfl⟩⟩
  exact mapError_eq_ok.mpr (map_eq_ok.mpr ⟨_, hfetch, rfl⟩)

lemma message_fetchesJson (n : Nat) : (fetchesJson n).reading.message .rel = .ok (fetches n) := by
  induction n with
  | zero => rfl
  | succ n ih => exact message_fetch (by cases n <;> rfl) ih

def fetchesPlan (n : Nat) : Message :=
  ⟨[.messages [], .messages [], .messages [⟨[.chosenMessage 1 (fetches n)]⟩], .message none]⟩

/-- As many fetches as a JSON text may nest are read. -/
lemma ofText_fetchesPlanText {n : Nat} (h : n ≤ 60) :
    Message.ofText .plan (fetchesPlanText n) = .ok (fetchesPlan n) := by
  have hs : Raw.ofText (fetchesPlanText n) = (.object [(some "relations",
      .array [.object [(some "rel", fetchesRaw n)] true] true)] true, true) :=
    Raw.ofText_objectText_singleton
      (Raw.ofText_itemText (Message.ofText_planRelText (ofText_fetchesText n)))
  -- Three containers are around the relation: the plan, its relations and this one of them.
  have hvalue : (fetchesRaw n).value? 124 = some (fetchesJson n) := by
    have := value?_fetchesRaw n (120 - 2 * n)
    rwa [show 2 * n + 4 + (120 - 2 * n) = 124 by omega] at this
  have hrel : ((Raw.object [(some "rel", fetchesRaw n)] true).reading 125).message .planRel =
      .ok ⟨[.chosenMessage 1 (fetches n)]⟩ := by
    have honce : Raw.DistinctKeys [(some "rel", fetchesRaw n)] := by simp [Raw.DistinctKeys]
    rw [Message.message_object_eq_ok_iff (honce.namesOnce _),
      Message.readByKeys_planRel_iff hvalue (by cases n <;> rfl)]
    exact ⟨_, rfl, message_fetchesJson n⟩
  have hitems : (Raw.itemReadings 125 [.object [(some "rel", fetchesRaw n)] true]).mapM
      (·.message .planRel) = .ok [⟨[.chosenMessage 1 (fetches n)]⟩] := by
    rw [Raw.itemReadings, List.mapM_cons, hrel]
    rfl
  have hrelations : ((Raw.array [.object [(some "rel", fetchesRaw n)] true] true).reading 126).field
      (.messages .planRel) = .ok (.messages [⟨[.chosenMessage 1 (fetches n)]⟩]) :=
    map_eq_ok.mpr ⟨_, bind_eq_ok.mpr ⟨(), rfl, bind_eq_ok.mpr ⟨_, hitems, rfl⟩⟩, rfl⟩
  rw [Message.ofText_eq_ok_iff hs]
  exact bind_eq_ok.mpr ⟨(), rfl, Reading.ofMembers_eq_ok_iff_fill.mpr ⟨rfl, _, [],
    Reading.fillFields_cons_eq_ok_iff.mpr ⟨"relations", rfl, List.not_mem_nil, _, hrelations, rfl⟩,
    rfl⟩⟩

lemma nesting_fetches (n : Nat) : (fetches n).nesting = 2 * n + 2 := by
  induction n with
  | zero => rfl
  | succ n ih =>
    simp [fetches, Message.nesting, slotsNesting, Slot.nesting, ih]
    omega

lemma nesting_fetchesPlan (n : Nat) : (fetchesPlan n).nesting = 2 * n + 4 := by
  simp [fetchesPlan, Message.nesting, slotsNesting, Slot.nesting, messagesNesting, nesting_fetches]

/-- As many fetches as the binary format may nest. -/
theorem ofBytes?_encode_of_ofText_fetches :
    Message.ofText .plan (fetchesPlanText 48) = .ok (fetchesPlan 48) ∧
    ∃ p p', ofBytes? ((fetchesPlan 48).encode .plan) = some p ∧
      ofText (fetchesPlanText 48) = .ok p' ∧ ∀ catalog acquireLock defaultSchema n,
        ((LoweringContext.ofPlan p catalog acquireLock defaultSchema).lowerPlan p).runFrom n =
          ((LoweringContext.ofPlan p' catalog acquireLock defaultSchema).lowerPlan p').runFrom n := by
  have hm := ofText_fetchesPlanText (show 48 ≤ 60 by decide)
  have hsize : ((fetchesPlan 48).encode .plan).length < 2 ^ 64 := by decide +kernel
  obtain ⟨hnesting, hlowered⟩ := ofBytes?_encode_of_ofText hm hsize
  obtain ⟨p, hp⟩ := hnesting.mpr (nesting_fetchesPlan 48).le
  obtain ⟨p', hp', hrun⟩ := hlowered p hp
  exact ⟨hm, p, p', hp, hp', hrun⟩

/-- With one fetch more the text is that of a plan but the bytes are not. -/
theorem not_ofBytes?_encode_fetches :
    Message.ofText .plan (fetchesPlanText 49) = .ok (fetchesPlan 49) ∧
    ofText (fetchesPlanText 49) = .ok (.ofMessage (fetchesPlan 49)) ∧
    ofBytes? ((fetchesPlan 49).encode .plan) = none ∧
    ¬ ∀ (text : String) (m : Message), Message.ofText .plan text = .ok m →
      (m.encode .plan).length < 2 ^ 64 → ∃ p, ofBytes? (m.encode .plan) = some p := by
  have hm := ofText_fetchesPlanText (show 49 ≤ 60 by decide)
  have hsize : ((fetchesPlan 49).encode .plan).length < 2 ^ 64 := by decide +kernel
  have hnone (p : Plan) : ofBytes? ((fetchesPlan 49).encode .plan) ≠ some p := by
    intro hp
    have hnesting := ((ofBytes?_encode_eq_some_iff hm hsize).mp hp).1
    rw [nesting_fetchesPlan] at hnesting
    exact absurd hnesting (by decide)
  refine ⟨hm, ofText_eq_ok_iff.mpr ⟨_, hm, rfl⟩, Option.eq_none_iff_forall_ne_some.mpr hnone, ?_⟩
  intro h
  obtain ⟨p, hp⟩ := h _ _ hm hsize
  exact hnone p hp

end Plan

end PlanImport
