import Mathlib.Logic.Relation
import PlanImport.Proofs.Json.Edits

/-!
# The order of members does not matter

A message is read by the keys of an object and not by their order, at every depth of a text and
both where the text is gone through and where its values are known.
-/

namespace PlanImport

open Schema Json

variable {t : MessageType} {s s' : String} {v v' : Raw} {m : Message}

namespace Message

lemma ofText_eq_ok_iff (h : Raw.ofText s = (v, true)) :
    ofText t s = .ok m ↔ (v.reading Raw.maxDepth).message t = .ok m := by
  rw [ofText, h]
  refine bind_eq_ok.trans ⟨?_, fun hm => ⟨m, hm, rfl⟩⟩
  rintro ⟨m', hm', h⟩
  cases h
  exact hm'

lemma message_object_eq_ok_iff {depth : Nat} {members : List (Option String × Raw)}
    (hnames : t.NamesOnce (Raw.memberReadings depth members)) :
    ((Raw.object members true).reading (depth + 1)).message t = .ok m ↔
      m.ReadByKeys t (Raw.memberReadings depth members) := by
  have hensure : Raw.ensure true = .ok () := rfl
  simp [Raw.reading, Raw.objectReading, bind_eq_ok,
    Reading.ofMembers_eq_ok_iff hnames, hensure]

/-- Edits of a value change nothing for what it is read as. -/
lemma message_iff_of_edits {depth : Nat}
    (h : Relation.ReflTransGen (Raw.Edit (some (.message t)) depth) v v') :
    (v.reading depth).message t = .ok m ↔ (v'.reading depth).message t = .ok m := by
  induction h with
  | refl => rfl
  | tail _ hedit ih => exact ih.trans (hedit.agree.reading.message t rfl m)

/-- A message is read from an object by its keys: a field is what is under its name, a oneof is the
only one of its members whose value is not `null`, each decided by itself, and no message is read
if there are two of them or if a value that is wanted is not of its type. This holds of the object
that a text is, of every object that is met in a text, and of every object that is known. Edits
change neither whether a text is read nor what it is read as: objects anywhere in it may have
their members in another order, with members besides that say nothing. -/
theorem readsByKeys (t : MessageType) :
    (∀ (s : String) (members : List (Option String × Raw)) (m : Message),
      Raw.ofText s = (.object members true, true) → Raw.DistinctKeys members →
      (ofText t s = .ok m ↔
        m.ReadByKeys t (Raw.memberReadings (Raw.maxDepth - 1) members))) ∧
    (∀ (depth : Nat) (members : List (Option String × Raw)) (m : Message),
      Raw.DistinctKeys members →
      (((Raw.object members true).reading (depth + 1)).message t = .ok m ↔
        m.ReadByKeys t (Raw.memberReadings depth members))) ∧
    (∀ (members : List (String × Json)) (m : Message), (members.map Prod.fst).Nodup →
      ((Json.ofMembers members).reading.message t = .ok m ↔
        m.ReadByKeys t (Json.memberReadings members))) ∧
    ∀ (s s' : String) (v v' : Raw), Raw.ofText s = (v, true) → Raw.ofText s' = (v', true) →
      Relation.ReflTransGen (Raw.Edit (some (.message t)) Raw.maxDepth) v v' →
      ∀ m, ofText t s = .ok m ↔ ofText t s' = .ok m := by
  refine ⟨?_, fun depth members m hkeys => message_object_eq_ok_iff (hkeys.namesOnce t), ?_, ?_⟩
  · intro s members m hs hkeys
    rw [ofText_eq_ok_iff hs]
    exact message_object_eq_ok_iff (hkeys.namesOnce t)
  · intro members m hkeys
    refine Json.message_ofMembers_iff (Json.namesOnce_memberReadings.mpr ?_)
    exact (List.pairwise_map.mp hkeys).imp fun hne key _ hkey hkey' => hne (hkey.trans hkey'.symm)
  · intro s s' v v' hs hs' hedits m
    rw [ofText_eq_ok_iff hs, ofText_eq_ok_iff hs', message_iff_of_edits hedits]

/-- A file of a path and a format. -/
def fileText : String := "\x7b\"items\": [\x7b\"uriPath\": \"a\", \"parquet\": \x7b\x7d\x7d]\x7d"

/-- The same file, its members in another order, with a key that is no name and another kind of path
that is `null`. -/
def fileText' : String :=
  "\x7b\"items\": [\x7b\"x\": [true], \"parquet\": \x7b\x7d, \"uriFile\": null, \"uriPath\": \"a\"\x7d]\x7d"

/-- What says nothing of the file. -/
def fileNothings : List (Option String × Raw) :=
  [(some "x", .array [.bool true] true), (some "uriFile", .null)]

def fileMembers : List (Option String × Raw) :=
  [(some "uriPath", .string (some "a")), (some "parquet", .object [] true)]

def fileMembers' : List (Option String × Raw) :=
  [(some "x", .array [.bool true] true), (some "parquet", .object [] true),
    (some "uriFile", .null), (some "uriPath", .string (some "a"))]

def fileMessage : Message := ⟨[.chosenScalar 1 (.string "a"), .chosenMessage 9 ⟨[]⟩]⟩

/-- The members are rearranged, with what says nothing put in among them. -/
lemma edit_fileMembers (depth : Nat) : Raw.Edit (some (.message .fileOrFiles)) (depth + 2)
    (.object fileMembers true) (.object fileMembers' true) := by
  refine .rearrange fileNothings (List.forall_mem_cons.mpr ⟨⟨?_, ?_⟩, ?_⟩) ?_ ?_
  · exact ⟨("x", .array [.bool true]), rfl, rfl⟩
  · intro t ht
    cases ht
    exact .inl (by decide +kernel)
  · refine List.forall_mem_singleton.mpr ⟨⟨("uriFile", .null), rfl, rfl⟩, fun t ht => ?_⟩
    cases ht
    have hname : jsonName "uri_file" = "uriFile" := by decide +kernel
    exact .inr ⟨⟨_, List.mem_cons_self, ⟨3, "uri_file", .scalar .string⟩, by decide,
      congrArg some hname.symm⟩, rfl⟩
  · simp [Raw.DistinctKeys, fileNothings, fileMembers]
  · exact .cons _ (List.perm_append_singleton _ _).symm

/-- Both ways of reading the file, and the text of which it is a part before and after the edit. -/
theorem readsByKeys_file :
    fileMessage.ReadByKeys .fileOrFiles (Raw.memberReadings 1 fileMembers) ∧
    fileMessage.ReadByKeys .fileOrFiles
      (Json.memberReadings [("uriPath", .string "a"), ("parquet", .object [])]) ∧
    ReadByKeys .localFiles (Raw.memberReadings (Raw.maxDepth - 1)
      [(some "items", .array [.object fileMembers true] true)]) ⟨[.messages [fileMessage]]⟩ ∧
    ofText .localFiles fileText' = .ok ⟨[.messages [fileMessage]]⟩ := by
  have hs : Raw.ofText fileText =
    (.object [(some "items", .array [.object fileMembers true] true)] true, true) := by cbv
  have hs' : Raw.ofText fileText' =
    (.object [(some "items", .array [.object fileMembers' true] true)] true, true) := by cbv
  have hm : ofText .localFiles fileText = .ok ⟨[.messages [fileMessage]]⟩ := by
    rw [ofText, hs]
    rfl
  have hedit : Raw.Edit (some (.message .localFiles)) Raw.maxDepth
      (.object [(some "items", .array [.object fileMembers true] true)] true)
      (.object [(some "items", .array [.object fileMembers' true] true)] true) := by
    have hwanted : itemType? (Raw.memberType? (some (.message .localFiles)) (some "items")) 0 =
        some (.message .fileOrFiles) := by decide +kernel
    refine .member [] [] (by simp [Raw.DistinctKeys]) (.item [] [] ?_)
    rw [List.length_nil, hwanted]
    exact edit_fileMembers _
  obtain ⟨htext, hmet, hknown, hedits⟩ := readsByKeys .fileOrFiles
  refine ⟨(hmet 1 fileMembers fileMessage ?_).mp rfl, (hknown _ fileMessage ?_).mp rfl,
    ((readsByKeys .localFiles).1 _ _ _ hs ?_).mp hm,
    ((readsByKeys .localFiles).2.2.2 _ _ _ _ hs hs' (.single hedit) _).mp hm⟩
  · simp [Raw.DistinctKeys, fileMembers]
  · decide
  · simp [Raw.DistinctKeys]

end Message

end PlanImport
