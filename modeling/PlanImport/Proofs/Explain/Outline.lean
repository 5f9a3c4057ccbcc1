import Mathlib.Data.List.Basic

/-!
# Outlines

An outline is written with one line for each headline, indented by two blanks for each outline that
it is below. The explained relations are outlines in which each headline begins with a word that
says how many others are directly below it. If no headline has a line break, then nothing else has
the same lines.
-/

namespace PlanImport

/-! ### Lines -/

namespace Text

/-- The number of blanks at the front of a line. -/
def indent (line : List Char) : Nat := (line.takeWhile (· = ' ')).length

lemma indent_replicate_append {n : Nat} {cs : List Char} (h : ∃ c ds, cs = c :: ds ∧ c ≠ ' ') :
    indent (List.replicate n ' ' ++ cs) = n := by
  obtain ⟨c, ds, rfl, hc⟩ := h
  induction n with
  | zero => simp [indent, hc]
  | succ n ih => simpa [indent, List.replicate_succ] using ih

/-- What has no line break is at the front of the first line. -/
lemma splitOn_append {xs : List Char} (h : '\n' ∉ xs) (ys : List Char) :
    ∃ first rest, ys.splitOn '\n' = first :: rest ∧
      (xs ++ ys).splitOn '\n' = (xs ++ first) :: rest := by
  obtain ⟨first, rest, hys⟩ := List.exists_cons_of_ne_nil (List.splitOn_ne_nil '\n' ys)
  refine ⟨first, rest, hys, ?_⟩
  induction xs with
  | nil => exact hys
  | cons x xs ih =>
    rw [List.mem_cons, not_or] at h
    have hx : (x == '\n') = false := by simpa using Ne.symm h.1
    rw [List.cons_append, List.splitOn_cons_eq_if_modifyHead, hx, ih h.2]
    rfl

/-- Texts with line breaks behind them. -/
lemma splitOn_flatMap {α : Type} (f : α → List Char) (xs : List α) :
    (xs.flatMap fun x => f x ++ ['\n']).splitOn '\n' =
      (xs.flatMap fun x => (f x).splitOn '\n') ++ [[]] := by
  induction xs with
  | nil => rfl
  | cons x xs ih =>
    rw [List.flatMap_cons, List.append_assoc, List.singleton_append,
      List.splitOn_append_cons_self, ih, List.flatMap_cons, List.append_assoc]

/-- No line of a text has a line break. -/
lemma not_mem_of_mem_splitOn {cs line : List Char} (h : line ∈ cs.splitOn '\n') :
    '\n' ∉ line := by
  induction cs generalizing line with
  | nil =>
    rw [List.splitOn_nil, List.mem_singleton] at h
    simp [h]
  | cons c cs ih =>
    rw [List.splitOn_cons_eq_if_modifyHead] at h
    split_ifs at h with hc
    · obtain rfl | h := List.mem_cons.mp h
      · simp
      · exact ih h
    · obtain ⟨first, rest, hcs⟩ := List.exists_cons_of_ne_nil (List.splitOn_ne_nil '\n' cs)
      rw [hcs, List.modifyHead_cons, List.mem_cons] at h
      obtain rfl | h := h
      · have hfirst : '\n' ∉ first := ih (by simp [hcs])
        exact List.not_mem_cons_of_ne_of_not_mem (fun h => hc (beq_iff_eq.mpr h.symm)) hfirst
      · exact ih (by simp [hcs, h])

lemma eq_of_splitOn_eq_singleton {cs line : List Char} (h : cs.splitOn '\n' = [line]) :
    cs = line := by
  have hjoin : ['\n'].intercalate (cs.splitOn '\n') = cs := List.intercalate_splitOn '\n'
  rw [h] at hjoin
  simpa using hjoin.symm

/-- Texts are the lines of what is made of them exactly if none has a line break. -/
lemma flatMap_splitOn_eq_map_iff {α : Type} (f : α → List Char) (xs : List α) :
    (xs.flatMap fun x => (f x).splitOn '\n') = xs.map f ↔ ∀ x ∈ xs, '\n' ∉ f x := by
  constructor
  · intro h x hx
    have hmem : f x ∈ xs.flatMap fun x => (f x).splitOn '\n' := h ▸ List.mem_map_of_mem hx
    obtain ⟨y, -, hy⟩ := List.mem_flatMap.mp hmem
    exact not_mem_of_mem_splitOn hy
  · intro h
    rw [List.flatMap_congr fun x hx => List.splitOn_eq_singleton (h x hx),
      List.map_eq_flatMap]

end Text

/-- If blocks begin with a marked item and have no other one, then no other blocks of the same
number that begin with a marked item are made of the same items. -/
lemma append_flatten_inj {α : Type} (marked : α → Prop) {blocks blocks' : List (List α)}
    (hlength : blocks.length = blocks'.length)
    (hblocks : ∀ b ∈ blocks, ∃ x xs, b = x :: xs ∧ marked x ∧ ∀ y ∈ xs, ¬ marked y)
    (hblocks' : ∀ b ∈ blocks', ∃ y ys, b = y :: ys ∧ marked y) {front front' : List α}
    (hfront : ∀ x ∈ front, ¬ marked x) (h : front ++ blocks.flatten = front' ++ blocks'.flatten) :
    front = front' ∧ blocks = blocks' := by
  induction blocks generalizing blocks' front front' with
  | nil =>
    obtain rfl := List.length_eq_zero_iff.mp hlength.symm
    simpa using h
  | cons b blocks ih =>
    obtain _ | ⟨b', blocks'⟩ := blocks'
    · cases hlength
    obtain ⟨⟨x, xs, rfl, hx, hxs⟩, hrest⟩ := List.forall_mem_cons.mp hblocks
    obtain ⟨⟨y, ys, rfl, hy⟩, hrest'⟩ := List.forall_mem_cons.mp hblocks'
    have ih (xs' : List α) (h : xs ++ blocks.flatten = xs' ++ blocks'.flatten) :=
      ih (Nat.succ.inj hlength) hrest hrest' hxs h
    simp only [List.flatten_cons, List.cons_append] at h
    obtain ⟨z, hz, h⟩ | ⟨z, hz, h⟩ := List.append_eq_append_iff.mp h
    · obtain _ | ⟨x', z⟩ := z
      · obtain ⟨rfl, htail⟩ := List.cons.inj h
        obtain ⟨rfl, rfl⟩ := ih ys htail
        exact ⟨by simpa using hz.symm, rfl⟩
      · -- The item that is marked in the other front would be one of `xs`.
        obtain ⟨rfl, htail⟩ := List.cons.inj h
        obtain ⟨rfl, -⟩ := ih (z ++ y :: ys) (by simpa using htail)
        exact absurd hy (hxs y (by simp))
    · obtain _ | ⟨y', z⟩ := z
      · obtain ⟨rfl, htail⟩ := List.cons.inj h
        obtain ⟨rfl, rfl⟩ := ih ys htail.symm
        exact ⟨by simpa using hz, rfl⟩
      · -- The first item of the other block would be in the front.
        obtain ⟨rfl, -⟩ := List.cons.inj h
        exact absurd hy (hfront y (by simp [hz]))

/-- A function that is injective on the items of two lists tells the lists apart. -/
lemma eq_of_map_eq {α β : Type} {f : α → β} {xs ys : List α}
    (hf : ∀ x ∈ xs, ∀ y ∈ ys, f x = f y → x = y) (h : xs.map f = ys.map f) : xs = ys := by
  induction xs generalizing ys with
  | nil => simpa [eq_comm] using h
  | cons x xs ih =>
    obtain _ | ⟨y, ys⟩ := ys
    · cases h
    obtain ⟨hfirst, hrest⟩ := List.cons.inj h
    rw [hf x List.mem_cons_self y List.mem_cons_self hfirst, ih _ hrest]
    exact fun x hx y hy => hf x (List.mem_cons_of_mem _ hx) y (List.mem_cons_of_mem _ hy)

/-! ### Outlines -/

namespace Engine

/-- A headline with the outlines that stand below it. -/
inductive Outline
  | node (headline : String) (below : List Outline)

namespace Outline

mutual

/-- The headlines from top to bottom, each with the number of those that it is below. -/
def entries (depth : Nat) : Outline → List (Nat × String)
  | node headline below => (depth, headline) :: allEntries (depth + 1) below

/-- The headlines of outlines one after the other. -/
def allEntries (depth : Nat) : List Outline → List (Nat × String)
  | [] => []
  | o :: rest => o.entries depth ++ allEntries depth rest

end

lemma allEntries_eq (depth : Nat) (below : List Outline) :
    allEntries depth below = below.flatMap (entries depth) := by
  induction below with
  | nil => rfl
  | cons o rest ih => rw [allEntries, ih, List.flatMap_cons]

/-- What holds of an outline if it holds of those below it holds of all. -/
lemma induction {P : Outline → Prop}
    (step : ∀ headline below, (∀ o ∈ below, P o) → P (node headline below)) (o : Outline) :
    P o := by
  match o with
  | node headline below => exact step headline below fun o _ => induction step o

/-- The characters of a headline behind two blanks for each depth. -/
def indented (entry : Nat × String) : List Char :=
  List.replicate (2 * entry.1) ' ' ++ entry.2.toList

/-- The lines of an outline. A headline with line breaks takes several. -/
def lines (depth : Nat) (o : Outline) : List (List Char) :=
  (o.entries depth).flatMap fun entry => (indented entry).splitOn '\n'

lemma lines_node (depth : Nat) (headline : String) (below : List Outline) :
    (node headline below).lines depth =
      (indented (depth, headline)).splitOn '\n' ++ (below.map (lines (depth + 1))).flatten := by
  rw [lines, entries, allEntries_eq, List.flatMap_cons, List.flatMap_assoc, ← List.flatMap_def]
  rfl

inductive Unbroken : Outline → Prop
  | node {headline : String} {below : List Outline} (hheadline : '\n' ∉ headline.toList)
    (hbelow : ∀ o ∈ below, Unbroken o) : Unbroken (node headline below)

/-- The depth changes nothing of the headlines. -/
lemma unbroken_iff (depth : Nat) (o : Outline) :
    o.Unbroken ↔ ∀ entry ∈ o.entries depth, '\n' ∉ entry.2.toList := by
  induction o using Outline.induction generalizing depth with
  | step headline below ih =>
    simp only [entries, allEntries_eq, List.forall_mem_cons, List.forall_mem_flatMap]
    constructor
    · rintro ⟨hheadline, hbelow⟩
      exact ⟨hheadline, fun o ho => (ih o ho _).mp (hbelow o ho)⟩
    · rintro ⟨hheadline, hbelow⟩
      exact ⟨hheadline, fun o ho => (ih o ho _).mpr (hbelow o ho)⟩

/-- Each headline has a line of its own exactly if none has a line break. -/
lemma lines_eq_iff (depth : Nat) (o : Outline) :
    o.lines depth = (o.entries depth).map indented ↔ o.Unbroken := by
  rw [unbroken_iff depth, lines, Text.flatMap_splitOn_eq_map_iff]
  simp [indented]

/-! ### What headlines begin with -/

/-- What headlines begin with and how many outlines stand below such a headline. -/
def leads : List (String × Nat) :=
  [("Table ", 0), ("View ", 0), ("TableFunction ", 0), ("Values [", 0), ("Alias ", 1),
    ("Filter ", 1), ("Project [", 1), ("Aggregate [", 1), ("Limit ", 1), ("Order [", 1),
    ("Join ", 2), ("CrossProduct", 2), ("SetOp ", 2), ("CreateTableAs ", 1), ("Insert ", 1),
    ("Delete ", 0)]

lemma exists_cons_of_mem_leads {lead : String} {n : Nat} (h : (lead, n) ∈ leads) :
    ∃ c cs, lead.toList = c :: cs ∧ c ≠ ' ' := by
  have hhead : ∀ lead ∈ leads, lead.1.toList ≠ [] ∧ lead.1.toList.head? ≠ some ' ' := by decide
  obtain ⟨hne, hblank⟩ := hhead _ h
  obtain ⟨c, cs, hcs⟩ := List.exists_cons_of_ne_nil hne
  exact ⟨c, cs, hcs, by simpa [hcs] using hblank⟩

lemma not_mem_of_mem_leads {lead : String} {n : Nat} (h : (lead, n) ∈ leads) :
    '\n' ∉ lead.toList := by
  have hlead : ∀ lead ∈ leads, '\n' ∉ lead.1.toList := by decide
  exact hlead _ h

/-- The beginning of a headline says how many outlines stand below it. -/
lemma eq_of_mem_leads {lead lead' : String} {n n' : Nat} (h : (lead, n) ∈ leads)
    (h' : (lead', n') ∈ leads) {cs : List Char} (hlead : lead.toList <+: cs)
    (hlead' : lead'.toList <+: cs) : n = n' := by
  have hunique : ∀ lead ∈ leads, ∀ lead' ∈ leads, lead.1.toList <+: lead'.1.toList →
      lead.2 = lead'.2 := by decide
  obtain hprefix | hprefix := List.prefix_or_prefix_of_prefix hlead hlead'
  · exact hunique _ h _ h' hprefix
  · exact (hunique _ h' _ h hprefix).symm

/-- Each headline begins with what says how many outlines stand below it. -/
inductive Led : Outline → Prop
  | node {lead headline : String} {below : List Outline} (hlead : (lead, below.length) ∈ leads)
    (hheadline : lead.toList <+: headline.toList) (hbelow : ∀ o ∈ below, Led o) :
    Led (node headline below)

/-- No headline begins with a blank. -/
lemma Led.start {o : Outline} (h : o.Led) (depth : Nat) :
    ∀ entry ∈ o.entries depth, ∃ c cs, entry.2.toList = c :: cs ∧ c ≠ ' ' := by
  induction o using Outline.induction generalizing depth with
  | step headline below ih =>
    obtain ⟨hlead, ⟨tail, htail⟩, hbelow⟩ := h
    simp only [entries, allEntries_eq, List.forall_mem_cons, List.forall_mem_flatMap]
    refine ⟨?_, fun o ho => ih o ho (hbelow o ho) (depth + 1)⟩
    obtain ⟨c, cs, hcs, hc⟩ := exists_cons_of_mem_leads hlead
    exact ⟨c, cs ++ tail, by rw [← htail, hcs]; rfl, hc⟩

/-- The first line has the beginning of the headline. -/
lemma Led.exists_lines_eq {headline : String} {below : List Outline}
    (h : (Outline.node headline below).Led) (depth : Nat) : ∃ lead first rest,
    (lead, below.length) ∈ leads ∧ lead.toList <+: first ∧
      headline.toList.splitOn '\n' = first :: rest ∧
      (Outline.node headline below).lines depth =
        (List.replicate (2 * depth) ' ' ++ first) ::
          (rest ++ (below.map (lines (depth + 1))).flatten) := by
  obtain ⟨hlead, ⟨tail, htail⟩, -⟩ := h
  obtain ⟨first, rest, -, hsplit⟩ := Text.splitOn_append (not_mem_of_mem_leads hlead) tail
  have hblank : '\n' ∉ List.replicate (2 * depth) ' ' := by simp
  obtain ⟨first', rest', hfirst, hlines⟩ := Text.splitOn_append hblank headline.toList
  rw [htail] at hsplit
  obtain ⟨rfl, rfl⟩ := List.cons.inj (hsplit.symm.trans hfirst)
  refine ⟨_, _, _, hlead, List.prefix_append _ _, hsplit, ?_⟩
  rw [lines_node, indented, hlines, List.cons_append]

lemma Led.exists_cons {o : Outline} (h : o.Led) (depth : Nat) :
    ∃ first rest, o.lines depth = first :: rest ∧ Text.indent first = 2 * depth := by
  obtain ⟨headline, below⟩ := o
  obtain ⟨lead, first, rest, hlead, ⟨tail, rfl⟩, -, hlines⟩ := h.exists_lines_eq depth
  obtain ⟨c, cs, hcs, hc⟩ := exists_cons_of_mem_leads hlead
  exact ⟨_, _, hlines, Text.indent_replicate_append ⟨c, cs ++ tail, by rw [hcs]; rfl, hc⟩⟩

/-- Without line breaks the first line is the only one that is not indented any further. -/
lemma Led.exists_cons_of_unbroken {o : Outline} (h : o.Led) (hunbroken : o.Unbroken)
    (depth : Nat) : ∃ first rest, o.lines depth = first :: rest ∧
      Text.indent first = 2 * depth ∧ ∀ line ∈ rest, 2 * depth < Text.indent line := by
  induction o using Outline.induction generalizing depth with
  | step headline below ih =>
    obtain ⟨first, rest, hlines, hfirst⟩ := h.exists_cons depth
    refine ⟨first, rest, hlines, hfirst, ?_⟩
    obtain ⟨hheadline, hunbroken⟩ := hunbroken
    obtain ⟨-, -, hbelow⟩ := h
    rw [lines_node, List.splitOn_eq_singleton (by simpa [indented] using hheadline)] at hlines
    obtain ⟨-, rfl⟩ := List.cons.inj hlines
    rintro line hline
    obtain ⟨_, hmem, hline⟩ := List.mem_flatten.mp hline
    obtain ⟨o, ho, rfl⟩ := List.mem_map.mp hmem
    obtain ⟨first', rest', hlines', hfirst', hrest'⟩ :=
      ih o ho (hbelow o ho) (hunbroken o ho) (depth + 1)
    rw [hlines', List.mem_cons] at hline
    obtain rfl | hline := hline
    · omega
    · exact Nat.lt_trans (by omega) (hrest' line hline)

/-- An outline without line breaks is the only one with its lines. -/
lemma Led.eq_of_lines_eq {o o' : Outline} (h : o.Led) (hunbroken : o.Unbroken) (h' : o'.Led)
    {depth : Nat} (hlines : o.lines depth = o'.lines depth) : o = o' := by
  induction o using Outline.induction generalizing o' depth with
  | step headline below ih =>
    obtain ⟨headline', below'⟩ := o'
    obtain ⟨lead, first, rest, hlead, hfirst, hsplit, heq⟩ := h.exists_lines_eq depth
    obtain ⟨lead', first', rest', hlead', hfirst', hsplit', heq'⟩ := h'.exists_lines_eq depth
    obtain ⟨hheadline, hunbroken⟩ := hunbroken
    obtain ⟨-, -, hbelow⟩ := h
    obtain ⟨-, -, hbelow'⟩ := h'
    rw [List.splitOn_eq_singleton hheadline] at hsplit
    obtain ⟨rfl, rfl⟩ := List.cons.inj hsplit
    rw [heq, heq'] at hlines
    obtain ⟨hline, hrest⟩ := List.cons.inj hlines
    obtain rfl := List.append_cancel_left hline
    have hlength : below.length = below'.length := eq_of_mem_leads hlead hlead' hfirst hfirst'
    have hblocks : ∀ b ∈ below.map (lines (depth + 1)), ∃ x xs, b = x :: xs ∧
        Text.indent x = 2 * (depth + 1) ∧ ∀ y ∈ xs, ¬ Text.indent y = 2 * (depth + 1) := by
      rintro _ hb
      obtain ⟨o, ho, rfl⟩ := List.mem_map.mp hb
      obtain ⟨x, xs, hlines, hx, hxs⟩ :=
        (hbelow o ho).exists_cons_of_unbroken (hunbroken o ho) (depth + 1)
      exact ⟨x, xs, hlines, hx, fun y hy => Nat.ne_of_gt (hxs y hy)⟩
    have hblocks' : ∀ b ∈ below'.map (lines (depth + 1)), ∃ x xs, b = x :: xs ∧
        Text.indent x = 2 * (depth + 1) :=
      List.forall_mem_map.mpr fun o ho => (hbelow' o ho).exists_cons (depth + 1)
    -- The lines of those below begin with the only ones that are indented by one more step.
    obtain ⟨rfl, hmap⟩ := append_flatten_inj _ (by simpa using hlength) hblocks hblocks'
      (List.forall_mem_nil _) hrest
    have heq_below : below = below' := eq_of_map_eq (fun o ho o' ho' hlines =>
      ih o ho (hbelow o ho) (hunbroken o ho) (hbelow' o' ho') hlines) hmap
    have heq_headline : headline = headline' :=
      String.toList_inj.mp (Text.eq_of_splitOn_eq_singleton hsplit').symm
    rw [heq_headline, heq_below]

end Outline

end Engine

end PlanImport
