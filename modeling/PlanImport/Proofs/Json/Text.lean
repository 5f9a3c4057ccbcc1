import Mathlib.Tactic.Common
import PlanImport.Json.Printer
import PlanImport.Json.Raw

/-!
# Texts inside of texts

What a text stands for is what it stands for as a part of a longer text. The tokens of a text that
are all good are met again in front of a comma or the end of a container, and a value that is read
from them is put where it belongs in the containers that are open. So the text of an object may be
put together from keys and from the texts of values.
-/

namespace PlanImport.Json

/-- Whether a character may come after a value in a container, and the token that it is. -/
inductive EndsValue : Char → Token → Prop
  | array : EndsValue ']' .closeArray
  | object : EndsValue '\x7d' .closeObject
  | comma : EndsValue ',' .comma

variable {cs rest tail ys : List Char} {c stop : Char} {closing : Token}

lemma EndsValue.isDigit (h : EndsValue stop closing) : stop.isDigit = false := by
  cases h <;> rfl

/-! ### Numerals inside of a container -/

lemma takeWhile_append_stop (hstop : EndsValue stop closing) (cs ys : List Char) :
    (cs ++ stop :: ys).takeWhile Char.isDigit = cs.takeWhile Char.isDigit := by
  induction cs with
  | nil => rw [List.nil_append, List.takeWhile_cons, hstop.isDigit]; rfl
  | cons c cs ih => rw [List.cons_append, List.takeWhile_cons, List.takeWhile_cons, ih]

lemma dropWhile_append_stop (hstop : EndsValue stop closing) (cs ys : List Char) :
    (cs ++ stop :: ys).dropWhile Char.isDigit = cs.dropWhile Char.isDigit ++ stop :: ys := by
  induction cs with
  | nil => rw [List.nil_append, List.dropWhile_cons, hstop.isDigit]; rfl
  | cons c cs ih =>
    rw [List.cons_append, List.dropWhile_cons, List.dropWhile_cons, ih]
    split <;> rfl

/-- The digits end in front of a character that may come after a value. -/
lemma scanPart_append_stop (hstop : EndsValue stop closing) {digits : List Char}
    (h : scanPart cs = some (digits, rest)) :
    scanPart (cs ++ stop :: ys) = some (digits, rest ++ stop :: ys) := by
  unfold scanPart at h
  split at h
  · next tail =>
    dsimp only at h
    split_ifs at h with hempty
    cases h
    rw [List.cons_append, scanPart]
    simp only [takeWhile_append_stop hstop, dropWhile_append_stop hstop, hempty]
    rfl
  · next hpoint =>
    cases h
    cases cs with
    | nil => cases hstop <;> rfl
    | cons c cs =>
      rw [List.cons_append, scanPart]
      rintro tail heq
      cases heq
      exact hpoint _ rfl

/-- The exponent ends in front of a character that may come after a value. -/
lemma scanExponent_append_stop (hstop : EndsValue stop closing) {e : Option (Bool × List Char)}
    (h : scanExponent cs = some (e, rest)) :
    scanExponent (cs ++ stop :: ys) = some (e, rest ++ stop :: ys) := by
  rcases cs with _ | ⟨letter, cs⟩
  · cases h
    cases hstop <;> rfl
  by_cases hletter : letter = 'e' ∨ letter = 'E'
  · rcases cs with _ | ⟨c, cs⟩
    · simp [scanExponent, hletter] at h
    have htake (cs) := takeWhile_append_stop hstop cs ys
    have hdrop (cs) := dropWhile_append_stop hstop cs ys
    -- The digits start after the sign, if there is one.
    by_cases hplus : c = '+'
    · simp [scanExponent, hletter, hplus, htake, hdrop] at h ⊢
      exact ⟨h.1, h.2.1, h.2.2⟩
    by_cases hminus : c = '-'
    · simp [scanExponent, hletter, hminus, htake, hdrop] at h ⊢
      exact ⟨h.1, h.2.1, h.2.2⟩
    have hdigits := htake (c :: cs)
    have hrest := hdrop (c :: cs)
    simp [scanExponent, hletter, hplus, hminus] at h hdigits hrest ⊢
    rw [hdigits, hrest]
    exact ⟨h.1, h.2.1, by rw [h.2.2]⟩
  · simp [scanExponent, hletter] at h ⊢
    exact ⟨h.1, by rw [← h.2, List.cons_append]⟩

/-- A numeral is scanned in front of such a character as it is at the end of a text. -/
lemma scanNumeral_append_stop (hstop : EndsValue stop closing) {negative : Bool} {n : Numeral}
    (h : scanNumeral negative cs = some (n, rest)) :
    scanNumeral negative (cs ++ stop :: ys) = some (n, rest ++ stop :: ys) := by
  unfold scanNumeral at h ⊢
  rw [takeWhile_append_stop hstop, dropWhile_append_stop hstop]
  dsimp only at h ⊢
  split_ifs at h with hwhole
  rw [if_neg hwhole]
  split at h
  · cases h
  · next part tail hpart =>
    rw [scanPart_append_stop hstop hpart]
    dsimp only
    split at h
    · cases h
    · next e tail hexponent =>
      cases h
      rw [scanExponent_append_stop hstop hexponent]

/-! ### Tokens -/

/-- A string ends with its quote, so anything may follow it. -/
lemma scanString_append {pieces : List Piece} (h : scanString cs = some (pieces, rest)) :
    scanString (cs ++ ys) = some (pieces, rest ++ ys) := by
  fun_induction scanString cs generalizing pieces rest with
  | case1 a b c d tail n ps t hs hn ih =>
    cases h
    simp [scanString, ih hs, hn]
  | case3 c tail _ e ps t hs he ih =>
    cases h
    have hu : c ≠ 'u' := by
      rintro rfl
      cases he
    rw [List.cons_append, List.cons_append, scanString, ih hs, he]
    exact fun _ _ _ _ _ h => absurd h hu
  | case5 =>
    cases h
    simp [scanString]
  | case7 c tail _ _ hquote hc ih =>
    obtain ⟨⟨ps, t⟩, hs, h'⟩ := Option.map_eq_some_iff.mp h
    cases h'
    rw [List.cons_append, scanString, if_neg hc, ih hs]
    · rfl
    · exact fun _ _ _ _ _ h => absurd (.inr h) hc
    · exact fun _ _ h => absurd (.inr h) hc
    · exact hquote
  | _ => simp at h

lemma hexUnit?_digitChar : ∀ n < 0x20,
    hexUnit? '0' '0' (Nat.digitChar (n / 16)) (Nat.digitChar (n % 16)) = some n := by decide

/-- An escaped character is read back. -/
lemma scanString_escapedChar {pieces : List Piece} (c : Char)
    (h : scanString cs = some (pieces, rest)) :
    ∃ piece, scanString (escapedChar c ++ cs) = some (piece :: pieces, rest) ∧
      ∀ ps, assemble (piece :: ps) = (assemble ps).map (c :: ·) := by
  unfold escapedChar
  split_ifs with hquote hslash _ _ _ _ _ hcontrol
  all_goals try
    subst c
    exact ⟨.char _, by simp [scanString, h, shortEscape?], fun _ => rfl⟩
  · refine ⟨.unit c.toNat, ?_, fun ps => ?_⟩
    · simp [scanString, h, hexUnit?_digitChar c.toNat hcontrol]
    · have hsurrogate : ¬(0xD800 ≤ c.toNat ∧ c.toNat < 0xDC00) := by omega
      have hsurrogate' : ¬(0xDC00 ≤ c.toNat ∧ c.toNat < 0xE000) := by omega
      conv_lhs => unfold assemble
      rw [if_neg hsurrogate, if_neg hsurrogate', Char.ofNat_toNat]
  · refine ⟨.char c, ?_, fun _ => rfl⟩
    rw [List.singleton_append, scanString, if_neg (not_or.mpr ⟨hcontrol, hslash⟩), h]
    · rfl
    · exact fun _ _ _ _ _ h => absurd h hslash
    · exact fun _ _ h => absurd h hslash
    · exact hquote

/-- Escaped characters are scanned as parts that are put together to the same characters. -/
lemma scanString_flatMap_escapedChar (cs rest : List Char) :
    ∃ pieces, scanString (cs.flatMap escapedChar ++ '"' :: rest) = some (pieces, rest) ∧
      assemble pieces = some cs := by
  induction cs with
  | nil => exact ⟨[], by simp [scanString], rfl⟩
  | cons c cs ih =>
    obtain ⟨pieces, hscan, hassemble⟩ := ih
    obtain ⟨piece, hpiece, hc⟩ := scanString_escapedChar c hscan
    exact ⟨piece :: pieces, by rw [List.flatMap_cons, List.append_assoc, hpiece],
      by rw [hc, hassemble, Option.map_some]⟩

namespace Token

lemma scan_string {pieces : List Piece} (h : scanString cs = some (pieces, rest)) :
    scan ('"' :: cs) = .string ((assemble pieces).map String.ofList) :: scan rest := by
  rw [scan]
  split
  · next h' =>
    rw [h] at h'
    cases h'
    rfl
  · next h' =>
    rw [h] at h'
    cases h'

lemma scan_minus {n : Numeral} (h : scanNumeral true cs = some (n, rest)) :
    scan ('-' :: cs) = .number n :: scan rest := by
  rw [scan]
  split
  · next h' =>
    rw [h] at h'
    cases h'
    rfl
  · next h' =>
    rw [h] at h'
    cases h'

lemma scan_openObject : scan ('\x7b' :: cs) = .openObject :: scan cs := by simp [scan]

lemma scan_colon : scan (':' :: cs) = .colon :: scan cs := by simp [scan]

lemma scan_blank (h : c = ' ' ∨ c = '\n' ∨ c = '\t' ∨ c = '\r') : scan (c :: cs) = scan cs := by
  rcases h with rfl | rfl | rfl | rfl <;> simp [scan]

lemma isDigit_of_scanNumeral {n : Numeral} (h : scanNumeral false (c :: cs) = some (n, rest)) :
    c.isDigit = true := by
  by_contra hc
  simp [scanNumeral, hc] at h

lemma scan_digit {n : Numeral} (h : scanNumeral false (c :: cs) = some (n, rest)) :
    scan (c :: cs) = .number n :: scan rest := by
  have hne (d : Char) (hd : d.isDigit = false) : c ≠ d := by
    rintro rfl
    rw [isDigit_of_scanNumeral h] at hd
    cases hd
  rw [scan, if_neg, if_neg (hne '[' rfl), if_neg (hne ']' rfl), if_neg (hne '\x7b' rfl),
    if_neg (hne '\x7d' rfl), if_neg (hne ',' rfl), if_neg (hne ':' rfl)]
  · split
    · next h' =>
      rw [h] at h'
      cases h'
      rfl
    · next h' =>
      rw [h] at h'
      cases h'
  · simp [hne ' ' rfl, hne '\n' rfl, hne '\t' rfl, hne '\r' rfl]
  · exact fun _ h => absurd h (hne 'n' rfl)
  · exact fun _ h => absurd h (hne 't' rfl)
  · exact fun _ h => absurd h (hne 'f' rfl)
  · exact hne '"' rfl
  · exact hne '-' rfl

lemma scan_stop (hstop : EndsValue stop closing) : scan (stop :: cs) = closing :: scan cs := by
  cases hstop <;> simp [scan]

lemma scan_openArray : scan ('[' :: cs) = .openArray :: scan cs := by simp [scan]

lemma scan_stringChars (key : String) (cs : List Char) :
    scan (stringChars key ++ cs) = .string (some key) :: scan cs := by
  obtain ⟨pieces, hscan, hassemble⟩ := scanString_flatMap_escapedChar key.toList cs
  rw [stringChars, List.cons_append, List.cons_append, List.append_assoc, List.singleton_append,
    scan_string hscan, hassemble, Option.map_some, String.ofList_toList]

/-- The tokens of a text without a bad one are met again inside of a container. -/
lemma scan_append_stop (hstop : EndsValue stop closing) (h : bad ∉ scan cs) :
    scan (cs ++ stop :: ys) = scan cs ++ closing :: scan ys := by
  fun_induction scan cs with
  | case1 => exact scan_stop hstop
  | case2 rest ih | case3 rest ih | case4 rest ih =>
    simp only [List.mem_cons, not_or] at h
    simp [scan, ih h.2]
  | case5 rest pieces tail hs ih =>
    simp only [List.mem_cons, not_or] at h
    rw [List.cons_append, scan_string (scanString_append hs), ih h.2, List.cons_append]
  | case7 rest n tail hs ih =>
    simp only [List.mem_cons, not_or] at h
    rw [List.cons_append, scan_minus (scanNumeral_append_stop hstop hs), ih h.2,
      List.cons_append]
  | case9 c rest _ _ _ _ _ hblank ih => rw [List.cons_append, scan_blank hblank, ih h]
  | case10 rest | case11 rest | case12 rest | case13 rest | case14 rest | case15 rest =>
    rename_i ih
    simp only [List.mem_cons, not_or] at h
    simp [scan, ih h.2]
  | case16 c rest =>
    rename_i hs ih
    simp only [List.mem_cons, not_or] at h
    exact (scan_digit (scanNumeral_append_stop hstop hs)).trans
      (by rw [ih h.2, List.cons_append])
  | _ => simp at h

end Token

/-! ### Values -/

namespace Raw

variable {v : Raw} {e e' : Expected} {stack stack' base : List Frame} {t : Token}
  {ts us left : List Token}

/-- What a step leads to when more containers are open around it. -/
def Step.inside (base : List Frame) : Step → Step
  | .go e stack => .go e (stack ++ base)
  | .finished v => complete v base
  | .fault => .fault

lemma complete_append (h : complete v stack ≠ .fault) :
    complete v (stack ++ base) = (complete v stack).inside base := by
  rcases stack with _ | ⟨items | ⟨members, _ | key⟩, stack⟩
  · rfl
  · rfl
  · exact absurd rfl h
  · rfl

lemma startValue_append (h : startValue stack t ≠ .fault) :
    startValue (stack ++ base) t = (startValue stack t).inside base := by
  cases t with
  | null | bool | number | string => exact complete_append h
  | openArray | openObject => rfl
  | _ => exact absurd rfl h

lemma close_append (h : close stack t ≠ .fault) :
    close (stack ++ base) t = (close stack t).inside base := by
  rcases stack with _ | ⟨items | ⟨members, key⟩, stack⟩ <;> cases t <;>
    first | exact absurd rfl h | exact complete_append h

lemma startKey_append (h : startKey stack t ≠ .fault) :
    startKey (stack ++ base) t = (startKey stack t).inside base := by
  rcases stack with _ | ⟨items | ⟨members, key⟩, stack⟩ <;> cases t <;>
    first | exact absurd rfl h | rfl

/-- A step is the same inside of other containers. -/
lemma step_append (h : step e stack t ≠ .fault) :
    step e (stack ++ base) t = (step e stack t).inside base := by
  cases e with
  | value => exact startValue_append h
  | firstItem =>
    simp only [step] at h ⊢
    split_ifs at h ⊢
    · exact close_append h
    · exact startValue_append h
  | firstKey =>
    simp only [step] at h ⊢
    split_ifs at h ⊢
    · exact close_append h
    · exact startKey_append h
  | key => exact startKey_append h
  | colon =>
    simp only [step] at h ⊢
    split_ifs at h ⊢
    · rfl
    · exact absurd rfl h
  | separator =>
    simp only [step] at h ⊢
    split_ifs at h ⊢
    · rcases stack with _ | ⟨items | ⟨members, key⟩, stack⟩
      · exact absurd rfl h
      · rfl
      · rfl
    · exact close_append h

lemma step_bad (e : Expected) (stack : List Frame) : step e stack .bad = .fault := by
  rcases stack with _ | ⟨items | ⟨members, key⟩, stack⟩ <;> cases e <;> rfl

/-- A value that is read is read inside of other containers too. -/
lemma run_append {next : Expected} {around : List Frame} (hbase : complete v base = .go next around)
    (h : run e stack ts = (v, some left)) :
    run e (stack ++ base) (ts ++ us) = run next around (left ++ us) := by
  induction ts generalizing e stack with
  | nil => cases h
  | cons t ts ih =>
    rw [run] at h
    rw [List.cons_append, run]
    cases hstep : step e stack t with
    | go e' stack' =>
      rw [hstep] at h
      rw [step_append (by rw [hstep]; nofun), hstep]
      exact ih h
    | finished w =>
      rw [hstep] at h
      cases h
      rw [step_append (by rw [hstep]; nofun), hstep, Step.inside, hbase]
    | fault =>
      rw [hstep] at h
      cases h

/-- Nothing bad is read over. -/
lemma bad_mem_of_run (h : run e stack ts = (v, some left)) (hbad : .bad ∈ ts) : .bad ∈ left := by
  induction ts generalizing e stack with
  | nil => cases hbad
  | cons t ts ih =>
    rw [run] at h
    rcases List.mem_cons.mp hbad with rfl | hbad
    · rw [step_bad] at h
      cases h
    · cases hstep : step e stack t with
      | go e' stack' =>
        rw [hstep] at h
        exact ih h hbad
      | finished w =>
        rw [hstep] at h
        cases h
        exact hbad
      | fault =>
        rw [hstep] at h
        cases h

/-- A text that holds one value leaves no tokens. -/
lemma run_eq_of_ofText {s : String} (h : ofText s = (v, true)) :
    run .value [] (Token.scan s.toList) = (v, some []) := by
  unfold ofText at h
  split at h
  · next value rest hrun =>
    rw [Prod.mk.injEq, List.isEmpty_iff] at h
    obtain ⟨rfl, rfl⟩ := h
    exact hrun
  · cases h

/-- A whole text is read inside of containers that go on right after it. -/
lemma run_inside {s : String} {next : Expected} {around : List Frame}
    (hstop : EndsValue stop closing) (hbase : complete v base = .go next around)
    (h : ofText s = (v, true)) :
    run .value base (Token.scan (s.toList ++ stop :: ys)) =
      run next around (Token.scan (stop :: ys)) := by
  have hrun := run_eq_of_ofText h
  have hbad : Token.bad ∉ Token.scan s.toList := fun hmem => by cases bad_mem_of_run hrun hmem
  rw [Token.scan_append_stop hstop hbad, Token.scan_stop hstop]
  exact run_append hbase hrun

/-- The first item of an array is read as any value. -/
lemma run_firstItem (h : run .value stack ts = (v, some left)) :
    run .firstItem stack ts = run .value stack ts := by
  cases ts with
  | nil => cases h
  | cons t ts =>
    have hne : t ≠ .closeArray := by
      rintro rfl
      cases h
    have hstep : step .firstItem stack t = step .value stack t := if_neg hne
    rw [run, run, hstep]

def itemText (s : String) : String := "[" ++ s ++ "]"

lemma ofText_itemText {s : String} (h : ofText s = (v, true)) :
    ofText (itemText s) = (array [v] true, true) := by
  have hlist : (itemText s).toList = '[' :: (s.toList ++ [']']) := by simp [itemText]
  have hcomplete : complete v [.array []] = .go .separator [.array [v]] := rfl
  have hend : run .separator [.array [v]] (Token.scan [']']) = (array [v] true, some []) := by
    simp [Token.scan]
    rfl
  have hitem := (run_inside .array hcomplete h).trans hend
  have hvalue : run .value [] (Token.scan (itemText s).toList) = (array [v] true, some []) := by
    rw [hlist, Token.scan_openArray]
    exact (run_firstItem hitem).trans hitem
  rw [ofText, hvalue]
  rfl

def memberChars (p : String × String) : List Char := stringChars p.1 ++ ':' :: ' ' :: p.2.toList

/-- Members after the first one, and the end of the object. -/
def laterChars : List (String × String) → List Char
  | [] => ['\x7d']
  | p :: ps => ',' :: ' ' :: (memberChars p ++ laterChars ps)

/-- The text of an object of members whose values are texts. -/
def objectText : List (String × String) → String
  | [] => "\x7b\x7d"
  | p :: ps => .ofList ('\x7b' :: (memberChars p ++ laterChars ps))

lemma exists_laterChars (ps : List (String × String)) :
    ∃ stop closing ys, EndsValue stop closing ∧ laterChars ps = stop :: ys := by
  cases ps with
  | nil => exact ⟨_, _, _, .object, rfl⟩
  | cons p ps => exact ⟨_, _, _, .comma, rfl⟩

variable {p : String × String} {ps : List (String × String)} {q : Option String × Raw}
  {members done : List (Option String × Raw)}

/-- Whether a member of an object has the key and the value of a member of a text. -/
def ReadsMember (p : String × String) (q : Option String × Raw) : Prop :=
  q.1 = some p.1 ∧ ofText p.2 = (q.2, true)

lemma run_memberChars {e : Expected} (he : e = .key ∨ e = .firstKey) (h : ReadsMember p q) :
    run e [.object done none] (Token.scan (memberChars p ++ laterChars ps)) =
      run .separator [.object (q :: done) none] (Token.scan (laterChars ps)) := by
  obtain ⟨stop, closing, ys, hstop, hlater⟩ := exists_laterChars ps
  obtain ⟨hkey, hvalue⟩ := h
  have hcomplete : complete q.2 [.object done (some q.1)] =
      .go .separator [.object (q :: done) none] := rfl
  rw [memberChars, List.append_assoc, Token.scan_stringChars, List.cons_append, Token.scan_colon,
    List.cons_append, Token.scan_blank (.inl rfl), hlater,
    ← run_inside hstop hcomplete hvalue, hkey]
  rcases he with rfl | rfl <;> rfl

/-- The members after the first one are read one by one up to the end of the object. -/
lemma run_laterChars (h : List.Forall₂ ReadsMember ps members) (done : List (Option String × Raw)) :
    run .separator [.object done none] (Token.scan (laterChars ps)) =
      (object (done.reverse ++ members) true, some []) := by
  induction h generalizing done with
  | nil =>
    rw [laterChars, List.append_nil]
    simp [Token.scan]
    rfl
  | @cons p q ps members hq _ ih =>
    have hcomma : run .separator [.object done none] (Token.scan (laterChars (p :: ps))) =
        run .key [.object done none] (Token.scan (memberChars p ++ laterChars ps)) := by
      rw [laterChars, Token.scan_stop .comma, Token.scan_blank (.inl rfl)]
      rfl
    rw [hcomma, run_memberChars (.inl rfl) hq, ih, List.reverse_cons, List.append_assoc,
      List.singleton_append]

/-- An object of texts is read as the object of what they are read as. -/
lemma ofText_objectText (h : List.Forall₂ ReadsMember ps members) :
    ofText (objectText ps) = (object members true, true) := by
  cases h with
  | nil =>
    simp [objectText, ofText, Token.scan]
    rfl
  | @cons p q ps members hq hrest =>
    have hvalue : run .value [] (Token.scan (objectText (p :: ps)).toList) =
        (object (q :: members) true, some []) := by
      rw [objectText, String.toList_ofList, Token.scan_openObject]
      exact (run_memberChars (.inr rfl) hq).trans (run_laterChars hrest [q])
    rw [ofText, hvalue]
    rfl

lemma ofText_objectText_singleton {key s : String} (h : ofText s = (v, true)) :
    ofText (objectText [(key, s)]) = (object [(some key, v)] true, true) :=
  ofText_objectText (.cons ⟨rfl, h⟩ .nil)

end Raw

end PlanImport.Json
