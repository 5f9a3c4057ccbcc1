import Mathlib.Data.List.Forall2
import Mathlib.Data.List.Pairwise
import PlanImport.Proofs.Message.Names
import PlanImport.Proofs.Result

/-!
# Objects are read by their keys

What a message is read as depends on what is found under its names and not on the order of the
members of the object. A field is what stands under its name, and the empty slot if nothing does;
a oneof is the one member under whose name there is a value other than `null`. All other members
of the object only have to be readable.
-/

namespace PlanImport

open Schema

variable {ε : Type}

/-! ### What an object says -/

/-- Whether a member of an object is one of a oneof and has a value. -/
def MemberReading.Gives (rs : List (MemberReading ε)) (m : Member) (v : Reading String) : Prop :=
  ∃ r ∈ rs, r.key = .ok (jsonName m.name) ∧ r.later = .ok v ∧ v.isNull = false

/-- Whether a member of an object can be read as far as it does not matter which message it is
in. -/
def MemberReading.Readable (t : MessageType) (r : MemberReading ε) : Prop :=
  ∃ key, r.key = .ok key ∧ (field? t.entries key = none →
    if t.hasOneof then ∃ v, r.later = .ok v else r.skip = .ok ())

/-- What the members of an object say of an entry. -/
def Schema.Entry.ReadsAs (rs : List (MemberReading ε)) : Entry → Slot → Prop
  | .field f, slot =>
    (∃ r ∈ rs, r.key = .ok (jsonName f.name) ∧ r.value.field f.type = .ok slot) ∨
      slot = .empty (.field f) ∧ ∀ r ∈ rs, r.key ≠ .ok (jsonName f.name)
  | .oneof members, slot =>
    (∃ m ∈ members, ∃ v, MemberReading.Gives rs m v ∧ v.member m = .ok slot ∧
      ∀ m' ∈ members, ∀ v', MemberReading.Gives rs m' v' → m' = m) ∨
      slot = .unset ∧ ∀ m ∈ members, ∀ v, ¬ MemberReading.Gives rs m v

/-- Whether a message is what the members of an object say, whatever their order. -/
structure Message.ReadByKeys (t : MessageType) (rs : List (MemberReading ε)) (m : Message) :
    Prop where
  readable : ∀ r ∈ rs, r.Readable t
  slots : List.Forall₂ (Entry.ReadsAs rs) t.entries m.slots

/-- Whether no two members of an object have the same name of a message. Other keys may occur
several times. -/
def Schema.MessageType.NamesOnce (t : MessageType) (rs : List (MemberReading ε)) : Prop :=
  rs.Pairwise fun r r' => ∀ key ∈ t.jsonNames, r.key = .ok key → r'.key ≠ .ok key

variable {raise : String → ε} {t : MessageType} {entries : List Entry} {members : List Member}
  {slots slots' : List Slot} {slot : Slot} {seen : List String} {r r' : MemberReading ε}
  {rs : List (MemberReading ε)} {others : List (String × Reading String)} {key : String} {i : Nat}
  {type : FieldType} {m m' : Member} {f : Field} {v v' : Reading String} {message : Message}

/-- Of what no two items of a list have, only one item has. -/
lemma eq_of_pairwise_not {α β : Type} {p : α → β → Prop} {l : List α} {keys : List β} {a b : α}
    {key : β} (h : l.Pairwise fun a b => ∀ key ∈ keys, p a key → ¬ p b key) (ha : a ∈ l)
    (hb : b ∈ l) (hkey : key ∈ keys) (hpa : p a key) (hpb : p b key) : a = b := by
  by_contra hne
  have : Std.Symm fun a b => ∀ key ∈ keys, p a key → ¬ p b key :=
    ⟨fun _ _ h key hkey hpb hpa => h key hkey hpa hpb⟩
  exact h.forall ha hb hne key hkey hpa hpb

lemma forall₂_imp_of_mem {α β : Type} {R S : α → β → Prop} {as : List α} {bs : List β}
    (h : ∀ a ∈ as, ∀ b, R a b → S a b) (hall : List.Forall₂ R as bs) : List.Forall₂ S as bs :=
  ((List.forall₂_and_left _ _).mpr ⟨fun _ ha => ha, hall⟩).imp fun a b ⟨ha, hab⟩ => h a ha b hab

/-- What is said of pairs by their first parts is said of these. -/
lemma forall₂_zip_iff {α β γ : Type} {R : α → γ → Prop} {as : List α} {bs : List β} {cs : List γ}
    (hlength : bs.length = as.length) :
    List.Forall₂ (fun p c => R p.1 c) (as.zip bs) cs ↔ List.Forall₂ R as cs := by
  conv_rhs => rw [← List.map_fst_zip (Nat.le_of_eq hlength.symm), List.forall₂_map_left_iff]

lemma Schema.MessageType.NamesOnce.eq (hnames : t.NamesOnce rs) (hr : r ∈ rs) (hr' : r' ∈ rs)
    (hmem : key ∈ t.jsonNames) (hkey : r.key = .ok key) (hkey' : r'.key = .ok key) : r = r' :=
  eq_of_pairwise_not hnames hr hr' hmem hkey hkey'

namespace Reading

/-! ### Fields -/

/-- A member that is kept until all members are known. -/
def kept? (entries : List Entry) (r : MemberReading ε) : Option (String × Reading String) :=
  match r.key, r.later with
  | .ok key, .ok v => if (field? entries key).isNone then some (key, v) else none
  | _, _ => none

/-- Only members that are no fields wait until all members are known. -/
lemma kept?_eq_some_iff : kept? entries r = some (key, v) ↔
    r.key = .ok key ∧ field? entries key = none ∧ r.later = .ok v := by
  unfold kept?
  split
  · next k w hkey hlater =>
    rw [hkey, hlater]
    cases hfield : field? entries k <;> aesop
  · next h =>
    constructor
    · nofun
    · rintro ⟨hkey, -, hlater⟩
      exact absurd hlater (h key v hkey)

/-- Reading the members of an object one step further. -/
lemma fillFields_cons_eq_ok_iff {keep : Bool} :
    fillFields raise entries keep slots seen (r :: rs) = .ok (slots', others) ↔
      ∃ key, r.key = .ok key ∧ (field? entries key).elim
        (if keep then ∃ v rest, r.later = .ok v ∧ others = (key, v) :: rest ∧
            fillFields raise entries keep slots seen rs = .ok (slots', rest)
          else r.skip = .ok () ∧
            fillFields raise entries keep slots seen rs = .ok (slots', others))
        fun place => key ∉ seen ∧ ∃ slot, r.value.field place.2 = .ok slot ∧
          fillFields raise entries keep (slots.set place.1 slot) (key :: seen) rs =
            .ok (slots', others) := by
  rw [fillFields, bind_eq_ok]
  refine exists_congr fun key => and_congr_right fun _ => ?_
  cases field? entries key with
  | some p =>
    by_cases hseen : key ∈ seen
    · simp [hseen, bind_eq_ok]
    · simp [hseen, bind_eq_ok]
  | none =>
    cases keep with
    | true =>
      simp only [if_true, bind_eq_ok]
      constructor
      · rintro ⟨v, hv, ⟨slots'', rest⟩, hrest, h⟩
        cases h
        exact ⟨v, rest, hv, rfl, hrest⟩
      · rintro ⟨v, rest, hv, rfl, hrest⟩
        exact ⟨v, hv, (slots', rest), hrest, rfl⟩
    | false =>
      simp only [Bool.false_eq_true, if_false, bind_eq_ok]
      constructor
      · rintro ⟨_, hskip, h⟩
        exact ⟨hskip, h⟩
      · rintro ⟨hskip, h⟩
        exact ⟨(), hskip, h⟩

/-- A message that is read has had all its members read, those that it does not keep included. -/
lemma readable_of_fillFields
    (h : fillFields raise t.entries t.hasOneof slots seen rs = .ok (slots', others)) :
    ∀ r ∈ rs, r.Readable t := by
  induction rs generalizing slots seen others with
  | nil => simp
  | cons r rs ih =>
    obtain ⟨key, hkey, h⟩ := fillFields_cons_eq_ok_iff.mp h
    rw [List.forall_mem_cons]
    cases hfield : field? t.entries key with
    | some p =>
      rw [hfield] at h
      obtain ⟨-, slot, -, h⟩ := h
      exact ⟨⟨key, hkey, by simp [hfield]⟩, ih h⟩
    | none =>
      rw [hfield, Option.elim_none] at h
      split_ifs at h with hkeep
      · obtain ⟨v, rest, hv, -, h⟩ := h
        exact ⟨⟨key, hkey, fun _ => by rw [if_pos hkeep]; exact ⟨v, hv⟩⟩, ih h⟩
      · exact ⟨⟨key, hkey, fun _ => by rw [if_neg hkeep]; exact h.1⟩, ih h.2⟩

/-- The members that are no fields are kept in their order. -/
lemma others_of_fillFields
    (h : fillFields raise entries true slots seen rs = .ok (slots', others)) :
    others = rs.filterMap (kept? entries) := by
  induction rs generalizing slots seen others with
  | nil =>
    cases h
    rfl
  | cons r rs ih =>
    obtain ⟨key, hkey, h⟩ := fillFields_cons_eq_ok_iff.mp h
    cases hfield : field? entries key with
    | some p =>
      rw [hfield] at h
      obtain ⟨-, slot, -, h⟩ := h
      have hnone : kept? entries r = none := by
        rw [Option.eq_none_iff_forall_ne_some]
        rintro ⟨key', v⟩ hkept
        obtain ⟨hkey', hnone, -⟩ := kept?_eq_some_iff.mp hkept
        rw [hkey] at hkey'
        cases hkey'
        rw [hfield] at hnone
        cases hnone
      rw [List.filterMap_cons_none hnone, ih h]
    | none =>
      rw [hfield] at h
      obtain ⟨v, rest, hv, hothers, h⟩ := h
      rw [hothers, List.filterMap_cons_some (kept?_eq_some_iff.mpr ⟨hkey, hfield, hv⟩), ih h]

/-- A place among the slots holds the value of the member that is read for it, or what it held
before. -/
lemma getElem?_of_fillFields {keep : Bool} (hlength : slots.length = entries.length)
    (h : fillFields raise entries keep slots seen rs = .ok (slots', others)) (i : Nat) :
    (∃ r ∈ rs, ∃ key type slot, r.key = .ok key ∧ field? entries key = some (i, type) ∧
      r.value.field type = .ok slot ∧ slots'[i]? = some slot) ∨
    (∀ r ∈ rs, ∀ key type, r.key = .ok key → field? entries key ≠ some (i, type)) ∧
      slots'[i]? = slots[i]? := by
  induction rs generalizing slots seen others with
  | nil =>
    cases h
    simp
  | cons r rs ih =>
    obtain ⟨key, hkey, h⟩ := fillFields_cons_eq_ok_iff.mp h
    have hskip (hne : ∀ type, field? entries key ≠ some (i, type))
        (hrs : ∀ r ∈ rs, ∀ key type, r.key = .ok key → field? entries key ≠ some (i, type)) :
        ∀ r' ∈ r :: rs, ∀ key type, r'.key = .ok key → field? entries key ≠ some (i, type) := by
      refine List.forall_mem_cons.mpr ⟨?_, hrs⟩
      intro key' type hkey'
      rw [hkey] at hkey'
      cases hkey'
      exact hne type
    cases hfield : field? entries key with
    | some p =>
      rw [hfield] at h
      obtain ⟨-, slot, hslot, h⟩ := h
      -- What a later member fills the place with stays there, else this one may have filled it.
      rcases ih (by rw [List.length_set, hlength]) h with ⟨r', hr', hread⟩ | ⟨hrs, hi⟩
      · exact .inl ⟨r', List.mem_cons_of_mem r hr', hread⟩
      · by_cases hp : p.1 = i
        · subst hp
          rw [List.getElem?_set_self (hlength ▸ lt_of_field?_eq_some hfield)] at hi
          exact .inl ⟨r, List.mem_cons_self, key, p.2, slot, hkey, hfield, hslot, hi⟩
        · rw [List.getElem?_set_ne hp] at hi
          refine .inr ⟨hskip (fun type hsome => ?_) hrs, hi⟩
          rw [hfield] at hsome
          cases hsome
          exact hp rfl
    | none =>
      rw [hfield] at h
      obtain ⟨rest, h⟩ :
          ∃ rest, fillFields raise entries keep slots seen rs = .ok (slots', rest) := by
        cases keep with
        | true =>
          obtain ⟨v, rest, -, -, h⟩ := h
          exact ⟨rest, h⟩
        | false => exact ⟨others, h.2⟩
      rcases ih hlength h with ⟨r', hr', hread⟩ | ⟨hrs, hi⟩
      · exact .inl ⟨r', List.mem_cons_of_mem r hr', hread⟩
      · exact .inr ⟨hskip (fun type hsome => by rw [hfield] at hsome; cases hsome) hrs, hi⟩

/-- Members only replace slots. -/
lemma length_of_fillFields {keep : Bool} (hlength : slots.length = entries.length)
    (h : fillFields raise entries keep slots seen rs = .ok (slots', others)) :
    slots'.length = entries.length := by
  have hplace := getElem?_of_fillFields hlength h
  -- No member is read for a place past the entries, so nothing is there as before.
  apply Nat.le_antisymm
  · rcases hplace entries.length with ⟨r, -, key, type, slot, -, hfield, -, -⟩ | ⟨-, hi⟩
    · exact absurd (lt_of_field?_eq_some hfield) (Nat.lt_irrefl _)
    · rwa [← hlength, List.getElem?_eq_none (Nat.le_refl _), List.getElem?_eq_none_iff,
        hlength] at hi
  · rcases hplace slots'.length with ⟨r, -, key, type, slot, -, -, -, hi⟩ | ⟨-, hi⟩
    · exact absurd (List.getElem?_eq_some_iff.mp hi).1 (Nat.lt_irrefl _)
    · rwa [List.getElem?_eq_none (Nat.le_refl _), eq_comm, List.getElem?_eq_none_iff, hlength] at hi

/-- If everything can be read, the members of an object are read. -/
lemma exists_fillFields (hnames : t.NamesOnce rs) (hreadable : ∀ r ∈ rs, r.Readable t)
    (hfields : ∀ r ∈ rs, ∀ key i type, r.key = .ok key → field? t.entries key = some (i, type) →
      key ∉ seen ∧ ∃ slot, r.value.field type = .ok slot) :
    ∃ slots' others,
      fillFields raise t.entries t.hasOneof slots seen rs = .ok (slots', others) := by
  induction rs generalizing slots seen with
  | nil => exact ⟨slots, [], rfl⟩
  | cons r rs ih =>
    rw [MessageType.NamesOnce, List.pairwise_cons] at hnames
    rw [List.forall_mem_cons] at hreadable hfields
    obtain ⟨key, hkey, hread⟩ := hreadable.1
    simp only [fillFields_cons_eq_ok_iff]
    cases hfield : field? t.entries key with
    | some p =>
      obtain ⟨hseen, slot, hslot⟩ := hfields.1 key p.1 p.2 hkey hfield
      obtain ⟨slots', others, h⟩ := @ih (slots.set p.1 slot) (key :: seen) hnames.2
        hreadable.2 fun r' hr' key' i type hkey' hfield' => by
          obtain ⟨hseen', hslot'⟩ := hfields.2 r' hr' key' i type hkey' hfield'
          refine ⟨?_, hslot'⟩
          -- A later member with this key would have the same name of the message.
          rw [List.mem_cons, not_or]
          refine ⟨?_, hseen'⟩
          rintro rfl
          exact hnames.1 r' hr' key' (MessageType.mem_jsonNames_of_field? hfield) hkey hkey'
      exact ⟨slots', others, key, hkey, by rw [hfield]; exact ⟨hseen, slot, hslot, h⟩⟩
    | none =>
      obtain ⟨slots', others, h⟩ := @ih slots seen hnames.2 hreadable.2 hfields.2
      have hread := hread hfield
      split_ifs at hread with hkeep
      · obtain ⟨v, hv⟩ := hread
        refine ⟨slots', (key, v) :: others, key, hkey, ?_⟩
        simp only [hfield, if_pos hkeep]
        exact ⟨v, others, hv, rfl, h⟩
      · refine ⟨slots', others, key, hkey, ?_⟩
        simp only [hfield, if_neg hkeep]
        exact ⟨hread, h⟩

/-- A field is what stands under its name. -/
lemma readsAs_field_iff (hnames : t.NamesOnce rs)
    (h : fillFields raise t.entries t.hasOneof (t.entries.map Slot.empty) [] rs =
      .ok (slots, others)) (hf : t.entries[i]? = some (.field f)) :
    Entry.ReadsAs rs (.field f) slot ↔ slots[i]? = some slot := by
  have hfield : field? t.entries (jsonName f.name) = some (i, f.type) :=
    MessageType.field?_eq_some_iff.mpr ⟨f, hf, rfl, rfl⟩
  rcases getElem?_of_fillFields (List.length_map _) h i with
    ⟨r, hr, key, type, slot', hkey, hplace, hslot', hi⟩ | ⟨hnone, hi⟩
  · obtain ⟨f', hf', rfl, rfl⟩ := MessageType.field?_eq_some_iff.mp hplace
    rw [hf] at hf'
    cases hf'
    rw [hi]
    constructor
    · rintro (⟨r', hr', hkey', hslot⟩ | ⟨-, hnone⟩)
      · have heq := hnames.eq hr hr' (MessageType.mem_jsonNames_of_field? hfield) hkey hkey'
        rw [← heq, hslot'] at hslot
        cases hslot
        rfl
      · exact absurd hkey (hnone r hr)
    · intro hslot
      cases hslot
      exact .inl ⟨r, hr, hkey, hslot'⟩
  · rw [hi, List.getElem?_map, hf]
    constructor
    · rintro (⟨r, hr, hkey, -⟩ | ⟨rfl, -⟩)
      · exact absurd hfield (hnone r hr _ _ hkey)
      · rfl
    · intro hslot
      cases hslot
      exact .inr ⟨rfl, fun r hr hkey => hnone r hr _ _ hkey hfield⟩

/-! ### Oneofs -/

/-- The members of a oneof that are found among those that wait are the ones that have a value. -/
lemma mem_given_iff (hmembers : .oneof members ∈ t.entries) :
    (key, m, v) ∈ given members (rs.filterMap (kept? t.entries)) ↔
      m ∈ members ∧ jsonName m.name = key ∧ MemberReading.Gives rs m v := by
  rw [given, List.mem_filterMap]
  constructor
  · rintro ⟨⟨key', v'⟩, hkept, h⟩
    obtain ⟨r, hr, hr'⟩ := List.mem_filterMap.mp hkept
    obtain ⟨hkey, -, hlater⟩ := kept?_eq_some_iff.mp hr'
    cases hnull : v'.isNull with
    | true => simp [hnull] at h
    | false =>
      simp only [hnull, Bool.false_eq_true, if_false, Option.map_eq_some_iff] at h
      obtain ⟨m', hm', h⟩ := h
      cases h
      obtain ⟨hm, rfl⟩ := (MessageType.member?_eq_some_iff hmembers).mp hm'
      exact ⟨hm, rfl, r, hr, hkey, hlater, hnull⟩
  · rintro ⟨hm, rfl, r, hr, hkey, hlater, hnull⟩
    refine ⟨(jsonName m.name, v), List.mem_filterMap.mpr ⟨r, hr, kept?_eq_some_iff.mpr
      ⟨hkey, MessageType.field?_eq_none_of_member hmembers hm, hlater⟩⟩, ?_⟩
    simp [hnull, (MessageType.member?_eq_some_iff hmembers).mpr ⟨hm, rfl⟩]

/-- The members of a oneof that have a value differ. -/
lemma pairwise_given (hmembers : .oneof members ∈ t.entries) (hnames : t.NamesOnce rs) :
    (given members (rs.filterMap (kept? t.entries))).Pairwise fun a b => a.1 ≠ b.1 := by
  have hname {p : String × Reading String} {a : String × Member × Reading String}
      (h : (if p.2.isNull then none else (member? members p.1).map fun m => (p.1, m, p.2)) =
        some a) : a.1 = p.1 ∧ p.1 ∈ t.jsonNames := by
    split_ifs at h
    obtain ⟨m, hm, rfl⟩ := Option.map_eq_some_iff.mp h
    obtain ⟨hmem, hkey⟩ := (MessageType.member?_eq_some_iff hmembers).mp hm
    exact ⟨rfl, MessageType.mem_jsonNames hmembers (List.mem_map.mpr ⟨m, hmem, hkey⟩)⟩
  refine List.pairwise_filterMap.mpr (List.pairwise_filterMap.mpr (hnames.imp ?_))
  intro r r' h p hp p' hp' a ha a' ha' heq
  obtain ⟨hkey, -⟩ := kept?_eq_some_iff.mp hp
  obtain ⟨hkey', -⟩ := kept?_eq_some_iff.mp hp'
  rw [(hname ha).1, (hname ha').1] at heq
  exact h p.1 (hname ha).2 hkey (heq ▸ hkey')

/-- A oneof is its only member that has a value. -/
lemma readsAs_oneof_iff (hmembers : .oneof members ∈ t.entries) (hnames : t.NamesOnce rs) :
    Entry.ReadsAs rs (.oneof members) slot ↔
      oneof members (rs.filterMap (kept? t.entries)) = .ok slot := by
  have hmem {key m v} := @mem_given_iff ε t members rs key m v hmembers
  have hpairwise := pairwise_given hmembers hnames
  unfold oneof
  split
  · next hgiven =>
    -- No member has a value, and the oneof is unset.
    rw [hgiven] at hmem
    constructor
    · rintro (⟨m, hm, v, hv, -⟩ | ⟨rfl, -⟩)
      · cases hmem.mpr ⟨hm, rfl, hv⟩
      · rfl
    · intro h
      cases h
      exact .inr ⟨rfl, fun m hm v hv => by cases hmem.mpr ⟨hm, rfl, hv⟩⟩
  · next key m v hgiven =>
    -- One member has a value, and its slot is that of the oneof.
    rw [hgiven] at hmem
    obtain ⟨hm, rfl, hv⟩ := hmem.mp List.mem_cons_self
    have honly {m' v'} (hm' : m' ∈ members) (hv' : MemberReading.Gives rs m' v') :
        m' = m ∧ v' = v := by
      have heq := List.mem_singleton.mp (hmem.mpr ⟨hm', rfl, hv'⟩)
      rw [Prod.mk.injEq, Prod.mk.injEq] at heq
      exact heq.2
    rw [mapError_eq_ok]
    constructor
    · rintro (⟨m', hm', v', hv', hslot, -⟩ | ⟨-, hnone⟩)
      · obtain ⟨rfl, rfl⟩ := honly hm' hv'
        exact hslot
      · exact absurd hv (hnone m hm v)
    · intro hslot
      exact .inl ⟨m, hm, v, hv, hslot, fun m' hm' v' hv' => (honly hm' hv').1⟩
  · next first a second b rest hgiven =>
    -- Two members have values; as names are distinct they are not one and the same.
    rw [hgiven] at hmem hpairwise
    obtain ⟨hm, rfl, hv⟩ := hmem.mp (List.mem_cons_self : (first, a.1, a.2) ∈ _)
    obtain ⟨hm', rfl, hv'⟩ :=
      hmem.mp (List.mem_cons_of_mem _ List.mem_cons_self : (second, b.1, b.2) ∈ _)
    have hne := (List.pairwise_cons.mp hpairwise).1 _ List.mem_cons_self
    constructor
    · rintro (⟨m, -, v, -, -, honly⟩ | ⟨-, hnone⟩)
      · rw [honly _ hm _ hv, honly _ hm' _ hv'] at hne
        exact absurd rfl hne
      · exact absurd hv (hnone _ hm _)
    · nofun

/-- Whether an entry and its slot end with a slot once the oneofs are looked for. -/
def EndsAs (others : List (String × Reading String)) (p : Entry × Slot) (slot : Slot) : Prop :=
  match p.1 with
  | .field _ => p.2 = slot
  | .oneof members => oneof members others = .ok slot

/-- The fields stay as they are, and each oneof is looked for by itself. -/
lemma fillOneofs_eq_ok_iff (hlength : slots.length = entries.length) :
    fillOneofs others entries slots = .ok slots' ↔
      List.Forall₂ (EndsAs others) (entries.zip slots) slots' := by
  induction entries generalizing slots slots' with
  | nil =>
    rw [List.length_eq_zero_iff.mp hlength, List.zip_nil_left, List.forall₂_nil_left_iff]
    exact ⟨fun h => by cases h; rfl, fun h => by rw [h]; rfl⟩
  | cons entry entries ih =>
    obtain ⟨slot, slots, rfl⟩ := List.exists_cons_of_length_eq_add_one hlength
    have hrest {slots'} := @ih slots slots' (Nat.succ.inj hlength)
    rw [List.zip_cons_cons, List.forall₂_cons_left_iff]
    cases entry with
    | field f =>
      rw [fillOneofs, bind_eq_ok]
      constructor
      · rintro ⟨rest, h, heq⟩
        cases heq
        exact ⟨slot, rest, rfl, hrest.mp h, rfl⟩
      · rintro ⟨_, rest, rfl, h, rfl⟩
        exact ⟨rest, hrest.mpr h, rfl⟩
    | oneof members =>
      rw [fillOneofs]
      simp only [bind_eq_ok]
      constructor
      · rintro ⟨slot', hslot', rest, h, heq⟩
        cases heq
        exact ⟨slot', rest, hslot', hrest.mp h, rfl⟩
      · rintro ⟨slot', rest, hslot', h, rfl⟩
        exact ⟨slot', hslot', rest, hrest.mpr h, rfl⟩

/-- A message without oneofs is finished as one with oneofs is. -/
lemma fillOneofs_of_not_isOneof (h : ∀ entry ∈ entries, entry.isOneof = false) :
    fillOneofs others entries slots = .ok slots := by
  fun_induction fillOneofs others entries slots with
  | case1 members => cases h _ List.mem_cons_self
  | case2 f entries slot slots ih =>
    rw [ih fun entry hentry => h entry (List.mem_cons_of_mem _ hentry)]
    rfl
  | case3 => rfl

/-! ### Messages -/

/-- Reading a message is filling its fields, and then its oneofs out of what is left over. -/
lemma ofMembers_eq_ok_iff_fill {finish : Except ε Unit} :
    ofMembers raise finish t rs = .ok message ↔ finish = .ok () ∧ ∃ slots others,
      fillFields raise t.entries t.hasOneof (t.entries.map Slot.empty) [] rs = .ok (slots, others) ∧
      fillOneofs others t.entries slots = .ok message.slots := by
  obtain ⟨slots'⟩ := message
  have hplain (hone : ¬t.hasOneof = true) (others slots) :
      fillOneofs others t.entries slots = .ok slots :=
    fillOneofs_of_not_isOneof (by simpa [MessageType.hasOneof] using hone)
  simp only [ofMembers, bind_eq_ok]
  constructor
  · rintro ⟨⟨slots, others⟩, hfill, _, hfinish, h⟩
    refine ⟨hfinish, slots, others, hfill, ?_⟩
    split_ifs at h with hone
    · split at h
      · next hslots =>
        cases h
        exact hslots
      · cases h
    · cases h
      exact hplain hone others _
  · rintro ⟨hfinish, slots, others, hfill, h⟩
    refine ⟨(slots, others), hfill, (), hfinish, ?_⟩
    split_ifs with hone
    · rw [h]
      rfl
    · rw [hplain hone] at h
      cases h
      rfl

/-- With each name once, the fields are filled already and the oneofs are as they are read. -/
lemma fillOneofs_eq_ok_iff_readsAs (hnames : t.NamesOnce rs)
    (h : fillFields raise t.entries t.hasOneof (t.entries.map Slot.empty) [] rs =
      .ok (slots, others)) :
    fillOneofs others t.entries slots = .ok slots' ↔
      List.Forall₂ (Entry.ReadsAs rs) t.entries slots' := by
  have hlength := length_of_fillFields (List.length_map _) h
  have hentry : ∀ p ∈ t.entries.zip slots, ∀ slot,
      EndsAs others p slot ↔ Entry.ReadsAs rs p.1 slot := by
    rintro ⟨entry, slot'⟩ hp slot
    obtain ⟨i, hi⟩ := List.mem_iff_getElem?.mp hp
    obtain ⟨hentry, hslot⟩ := List.getElem?_zip_eq_some.mp hi
    cases entry with
    | field f =>
      rw [readsAs_field_iff hnames h hentry, hslot, Option.some.injEq]
      rfl
    | oneof members =>
      have hmem := List.mem_iff_getElem?.mpr ⟨i, hentry⟩
      have hone : t.hasOneof = true := List.any_eq_true.mpr ⟨_, hmem, rfl⟩
      rw [hone] at h
      rw [readsAs_oneof_iff hmem hnames, ← others_of_fillFields h]
      rfl
  rw [fillOneofs_eq_ok_iff hlength, ← forall₂_zip_iff hlength]
  exact ⟨forall₂_imp_of_mem fun p hp slot => (hentry p hp slot).mp,
    forall₂_imp_of_mem fun p hp slot => (hentry p hp slot).mpr⟩

/-- An object in which the names of a message occur once at most is read as the message that it
says by its keys, and as no message if there is none. -/
lemma ofMembers_eq_ok_iff (hnames : t.NamesOnce rs) {finish : Except ε Unit} :
    ofMembers raise finish t rs = .ok message ↔
      finish = .ok () ∧ message.ReadByKeys t rs := by
  rw [ofMembers_eq_ok_iff_fill]
  refine and_congr_right fun _ => ?_
  constructor
  · rintro ⟨slots, others, hfill, h⟩
    exact ⟨readable_of_fillFields hfill, (fillOneofs_eq_ok_iff_readsAs hnames hfill).mp h⟩
  · rintro ⟨hreadable, hslots⟩
    have hfields : ∀ r ∈ rs, ∀ key i type, r.key = .ok key →
        field? t.entries key = some (i, type) →
        key ∉ ([] : List String) ∧ ∃ slot, r.value.field type = .ok slot := by
      intro r hr key i type hkey hfield
      obtain ⟨f, hf, rfl, rfl⟩ := exists_of_field?_eq_some hfield
      obtain ⟨hi, hentry⟩ := List.getElem?_eq_some_iff.mp hf
      obtain ⟨hlength, hreads⟩ := List.forall₂_iff_get.mp hslots
      have hread := hreads i hi (hlength ▸ hi)
      rw [List.get_eq_getElem, hentry] at hread
      rcases hread with ⟨r', hr', hkey', hslot⟩ | ⟨-, hnone⟩
      · rw [hnames.eq hr hr' (MessageType.mem_jsonNames_of_field? hfield) hkey hkey']
        exact ⟨List.not_mem_nil, _, hslot⟩
      · exact absurd hkey (hnone r hr)
    obtain ⟨slots, others, hfill⟩ : ∃ slots others, fillFields raise t.entries t.hasOneof
        (t.entries.map Slot.empty) [] rs = .ok (slots, others) :=
      exists_fillFields hnames hreadable hfields
    exact ⟨slots, others, hfill, (fillOneofs_eq_ok_iff_readsAs hnames hfill).mpr hslots⟩

end Reading

end PlanImport
