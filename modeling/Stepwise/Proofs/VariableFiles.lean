import Stepwise.Proofs.Margins
import Stepwise.Proofs.Precedence
import Mathlib.Data.List.DropRight
/-!
# What a file of variables says

A line of a file sets a variable if it reads `name=value`, with blanks around either, and is no comment. Quotes
around a value are not part of it. `SetsTo` and `Means` say so without a reader, and `readFile_means_iff` compares
the reader with them: each variable has the value of the last line about it, and that is what the line means unless
its value is a single quote, which is taken for a pair.
-/

namespace Stepwise

namespace Text

variable {p : Char → Bool} {s w : List Char}

/-! ## Texts without the blanks at their ends -/

/-- All that stands around `w` in a text are characters of a kind, and `w` neither begins nor ends with one. -/
structure Trims (p : Char → Bool) (s w : List Char) : Prop where
  around : ∃ before behind, s = before ++ w ++ behind ∧ (∀ c ∈ before, p c = true) ∧ ∀ c ∈ behind, p c = true
  first : ∀ c ∈ w.head?, p c = false
  last : ∀ c ∈ w.getLast?, p c = false

theorem trimLeft_append {before : List Char} (h : ∀ c ∈ before, p c = true) (hw : ∀ c ∈ w.head?, p c = false) :
    trimLeft p (before ++ w) = w := by
  rw [trimLeft, List.dropWhile_append_of_pos h]
  cases w with
  | nil => rfl
  | cons c cs => exact List.dropWhile_cons_of_neg (by rw [hw c rfl]; exact Bool.false_ne_true)

theorem trimRight_append {behind : List Char} (h : ∀ c ∈ behind, p c = true) (hw : ∀ c ∈ w.getLast?, p c = false) :
    trimRight p (w ++ behind) = w := by
  have hleft : trimLeft p (behind.reverse ++ w.reverse) = w.reverse :=
    trimLeft_append (fun c hc => h c (List.mem_reverse.1 hc)) (by rwa [List.head?_reverse])
  rw [trimRight, List.reverse_append]
  exact (congrArg List.reverse hleft).trans (List.reverse_reverse w)

theorem Trims.trim_eq (h : Trims p s w) : trim p s = w := by
  obtain ⟨⟨before, behind, hs, hbefore, hbehind⟩, hfirst, hlast⟩ := h
  by_cases hw : w = []
  · subst hw
    have hall : ∀ c ∈ s, p c = true := by
      rw [hs, List.append_nil]
      exact fun c hc => (List.mem_append.1 hc).elim (hbefore c) (hbehind c)
    rw [trim, trimLeft, List.dropWhile_eq_nil_iff.2 hall]
    rfl
  · have hhead : ∀ c ∈ (w ++ behind).head?, p c = false := by
      rwa [List.head?_append_of_ne_nil _ hw]
    rw [trim, hs, List.append_assoc, trimLeft_append hbefore hhead, trimRight_append hbehind hlast]

theorem trims_trim (p : Char → Bool) (s : List Char) : Trims p s (trim p s) := by
  -- trimming from the right is `rdropWhile`, and what it takes away is a run at the end
  have hright : trim p s ++ (trimLeft p s).rtakeWhile p = trimLeft p s := List.rdropWhile_append_rtakeWhile
  refine ⟨⟨s.takeWhile p, (trimLeft p s).rtakeWhile p, ?_, fun c => List.mem_takeWhile_imp, fun c =>
    List.mem_rtakeWhile_imp⟩, fun c hc => ?_, fun c hc => ?_⟩
  · rw [List.append_assoc, hright]
    exact List.takeWhile_append_dropWhile.symm
  · have hne : trim p s ≠ [] := by
      rintro h
      rw [h] at hc
      cases hc
    have hhead : (trimLeft p s).head? = some c := by
      rw [← hright, List.head?_append_of_ne_nil _ hne]
      exact hc
    have hnot := List.head?_dropWhile_not p s
    rw [← trimLeft, hhead] at hnot
    exact hnot
  · have hne : (trimLeft p s).rdropWhile p ≠ [] := by
      rintro h
      rw [trim, trimRight, ← List.rdropWhile, h] at hc
      cases hc
    have hlast := List.rdropWhile_last_not p (trimLeft p s) hne
    have hc' : some ((List.rdropWhile p (trimLeft p s)).getLast hne) = some c :=
      (List.getLast?_eq_some_getLast hne).symm.trans hc
    rw [Option.some.inj hc'] at hlast
    exact Bool.eq_false_iff.2 hlast

/-- **Trimming takes away what stands around**, and nothing else. -/
theorem trims_iff : Trims p s w ↔ trim p s = w :=
  ⟨Trims.trim_eq, fun h => h ▸ trims_trim p s⟩

/-! ## Cutting at a sign -/

theorem findFrom_singleton (c : Char) (k v : List Char) (hk : c ∉ k) (i : Nat) :
    findFrom [c] i (k ++ c :: v) = some (i + k.length) := by
  induction k generalizing i with
  | nil => simp [findFrom, startsWith, afterStart?]
  | cons d k ih =>
    rw [List.mem_cons, not_or] at hk
    have hno : startsWith [c] (d :: (k ++ c :: v)) = false := by simp [startsWith, afterStart?, hk.1]
    rw [List.cons_append, findFrom, hno, if_neg Bool.false_ne_true, ih hk.2, List.length_cons]
    congr 1
    omega

theorem findFrom_singleton_none {c : Char} (hs : c ∉ s) (i : Nat) : findFrom [c] i s = none := by
  induction s generalizing i with
  | nil => rfl
  | cons d s ih =>
    rw [List.mem_cons, not_or] at hs
    have hno : startsWith [c] (d :: s) = false := by simp [startsWith, afterStart?, hs.1]
    rw [findFrom, hno, if_neg Bool.false_ne_true, ih hs.2]

/-- **A text is cut at the first sign of a kind.** -/
theorem cutFirst_singleton_iff {c : Char} {k v : List Char} :
    cutFirst [c] s = some (k, v) ↔ s = k ++ c :: v ∧ c ∉ k := by
  have hcut : ∀ k v : List Char, c ∉ k → cutFirst [c] (k ++ c :: v) = some (k, v) := by
    intro k v hk
    rw [cutFirst, findFrom_singleton c k v hk]
    simp
  refine ⟨fun h => ?_, fun ⟨hs, hk⟩ => hs ▸ hcut k v hk⟩
  by_cases hc : c ∈ s
  · obtain ⟨k', v', rfl, hk'⟩ := List.eq_append_cons_of_mem hc
    rw [hcut k' v' hk'] at h
    cases h
    exact ⟨rfl, hk'⟩
  · rw [cutFirst, findFrom_singleton_none hc] at h
    cases h

end Text

namespace Configuration

/-! ## Quotes around a value -/

def IsQuote (q : Char) : Prop := q = '"' ∨ q = '\''

/-- What a value means as it is written: what stands between two quotes of one kind, or else itself. -/
inductive Means : List Char → List Char → Prop
  | quoted {q : Char} (hq : IsQuote q) (inner : List Char) : Means (q :: inner ++ [q]) inner
  | plain {w : List Char} (h : ∀ q inner, IsQuote q → w ≠ q :: inner ++ [q]) : Means w w

/-- A value begins and ends with a quote if it is that quote or stands between two of them. -/
theorem around_iff {q : Char} {w : List Char} :
    (Text.startsWith [q] w && Text.endsWith [q] w) = true ↔ w = [q] ∨ ∃ inner, w = q :: inner ++ [q] := by
  refine ⟨fun h => ?_, fun h => ?_⟩
  · rw [Bool.and_eq_true] at h
    obtain ⟨hstart, hend⟩ := h
    cases w with
    | nil => cases hstart
    | cons c cs =>
      obtain rfl : q = c := by
        by_contra hne
        simp [Text.startsWith, Text.afterStart?, hne] at hstart
      rcases List.eq_nil_or_concat cs with rfl | ⟨inner, d, rfl⟩
      · exact .inl rfl
      · obtain rfl : q = d := by
          by_contra hne
          simp [Text.endsWith, Text.startsWith, Text.afterStart?, hne] at hend
        exact .inr ⟨inner, by simp⟩
  · rcases h with rfl | ⟨inner, rfl⟩ <;> simp [Text.startsWith, Text.endsWith, Text.afterStart?]

theorem unquote_around {q : Char} (hq : IsQuote q) {w : List Char}
    (h : (Text.startsWith [q] w && Text.endsWith [q] w) = true) : unquote w = (w.drop 1).dropLast := by
  rcases hq with rfl | rfl
  · exact if_pos (Bool.or_eq_true_iff.2 (.inl h))
  · exact if_pos (Bool.or_eq_true_iff.2 (.inr h))

theorem unquote_quoted {q : Char} (hq : IsQuote q) (inner : List Char) : unquote (q :: inner ++ [q]) = inner := by
  rw [unquote_around hq (around_iff.2 (.inr ⟨inner, rfl⟩))]
  exact List.dropLast_concat

/-- A single quote is taken for a pair with nothing inside. -/
theorem unquote_lone {q : Char} (hq : IsQuote q) : unquote [q] = [] :=
  unquote_around hq (around_iff.2 (.inl rfl))

theorem unquote_plain {w : List Char} (h : ∀ q inner, IsQuote q → w ≠ q :: inner ++ [q])
    (hlone : ∀ q, IsQuote q → w ≠ [q]) : unquote w = w := by
  have hnot : ∀ q, IsQuote q → ¬ (Text.startsWith [q] w && Text.endsWith [q] w) = true := fun q hq haround =>
    (around_iff.1 haround).elim (hlone q hq) fun ⟨inner, hw⟩ => h q inner hq hw
  exact if_neg fun hor => (Bool.or_eq_true_iff.1 hor).elim (hnot '"' (.inl rfl)) (hnot '\'' (.inr rfl))

/-- **The reader takes a value for what it means, unless it is a single quote.** -/
theorem unquote_eq_iff {w value : List Char} (h : Means w value) :
    unquote w = value ↔ ∀ q, IsQuote q → w ≠ [q] := by
  cases h with
  | @quoted q hq inner =>
    refine ⟨fun _ q' _ hlone => ?_, fun _ => unquote_quoted hq value⟩
    have hlength := congrArg List.length hlone
    simp at hlength
  | plain h =>
    refine ⟨fun heq q hq hlone => ?_, fun hlone => unquote_plain h hlone⟩
    rw [hlone, unquote_lone hq] at heq
    cases heq

/-! ## Lines -/

/-- The line sets a variable to a value as it is written: it reads `name=value`, with blanks around either, and is
no comment. -/
def SetsTo (line name value : List Char) : Prop :=
  ∃ k v, Text.Trims Text.isBlank line (k ++ '=' :: v) ∧ '=' ∉ k ∧ k.head? ≠ some '#' ∧
    Text.Trims Text.isBlank k name ∧ Text.Trims Text.isBlank v value

/-- **What the reader makes of a line**: the variable that it sets, without the quotes around its value. -/
theorem variableOfLine?_eq_some_iff {line : List Char} {pair : String × String} :
    variableOfLine? line = some pair ↔
      ∃ name value, SetsTo line name value ∧ pair = (String.ofList name, String.ofList (unquote value)) := by
  have hcut : variableOfLine? line = some pair ↔ (Text.trim Text.isBlank line).head? ≠ some '#' ∧
      ∃ k v, Text.cutFirst ['='] (Text.trim Text.isBlank line) = some (k, v) ∧
        pair = (String.ofList (Text.trim Text.isBlank k), String.ofList (unquote (Text.trim Text.isBlank v))) := by
    unfold variableOfLine?
    dsimp only
    split
    case h_1 heq =>
      rw [heq]
      exact ⟨fun h => (nomatch h), fun ⟨_, _, _, h, _⟩ => (nomatch h)⟩
    case h_2 heq =>
      rw [heq]
      exact ⟨fun h => (nomatch h), fun ⟨h, _⟩ => absurd rfl h⟩
    case h_3 hne hno =>
      have hhead : (Text.trim Text.isBlank line).head? ≠ some '#' := fun h => by
        obtain ⟨cs, hcs⟩ := List.head?_eq_some_iff.1 h
        exact hno cs hcs
      cases hc : Text.cutFirst ['='] (Text.trim Text.isBlank line) with
      | none => exact ⟨fun h => (nomatch h), fun ⟨_, _, _, h, _⟩ => (nomatch h)⟩
      | some cut =>
        obtain ⟨k, v⟩ := cut
        refine ⟨fun h => ⟨hhead, k, v, rfl, (Option.some.inj h).symm⟩, fun ⟨_, k', v', h, hpair⟩ => ?_⟩
        cases h
        exact congrArg some hpair.symm
  rw [hcut]
  -- a text that is cut at a sign begins as what stands before the sign does, or with the sign itself
  have hbegin : ∀ k v : List Char, (k ++ '=' :: v).head? ≠ some '#' ↔ k.head? ≠ some '#' := by
    intro k v
    cases k with
    | nil => simp
    | cons c k => simp
  refine ⟨fun ⟨hhead, k, v, hk, hpair⟩ => ?_, fun ⟨name, value, ⟨k, v, hline, hk, hhash, hname, hvalue⟩, hpair⟩ => ?_⟩
  · obtain ⟨htrim, hk⟩ := Text.cutFirst_singleton_iff.1 hk
    rw [htrim, hbegin] at hhead
    exact ⟨_, _, ⟨k, v, Text.trims_iff.2 htrim, hk, hhead, Text.trims_trim _ k, Text.trims_trim _ v⟩, hpair⟩
  · rw [hline.trim_eq, hbegin]
    refine ⟨hhash, k, v, Text.cutFirst_singleton_iff.2 ⟨rfl, hk⟩, ?_⟩
    rw [hname.trim_eq, hvalue.trim_eq, hpair]

/-- A line sets one variable at most. -/
theorem SetsTo.unique {line name value name' value' : List Char} (h : SetsTo line name value)
    (h' : SetsTo line name' value') : name' = name ∧ value' = value := by
  obtain ⟨k, v, hline, hk, -, hname, hvalue⟩ := h
  obtain ⟨k', v', hline', hk', -, hname', hvalue'⟩ := h'
  have hcut : Text.cutFirst ['='] (k ++ '=' :: v) = some (k, v) := Text.cutFirst_singleton_iff.2 ⟨rfl, hk⟩
  have hcut' : Text.cutFirst ['='] (k' ++ '=' :: v') = some (k', v') := Text.cutFirst_singleton_iff.2 ⟨rfl, hk'⟩
  rw [← hline.trim_eq, hline'.trim_eq, hcut'] at hcut
  cases hcut
  exact ⟨hname'.trim_eq.symm.trans hname.trim_eq, hvalue'.trim_eq.symm.trans hvalue.trim_eq⟩

/-- **What stands between quotes behind a name is set as it is.** -/
theorem setsTo_quoted {name value : List Char} {q : Char} (hq : IsQuote q) (hname : Text.Trims Text.isBlank name name)
    (hne : name ≠ []) (hsign : '=' ∉ name) (hhash : name.head? ≠ some '#') :
    SetsTo (name ++ '=' :: (q :: value ++ [q])) name (q :: value ++ [q]) := by
  have hquote : Text.isBlank q = false := by rcases hq with rfl | rfl <;> decide +kernel
  have hends : ∀ w : List Char, (∀ c ∈ w.head?, Text.isBlank c = false) →
      Text.Trims Text.isBlank (w ++ [q]) (w ++ [q]) := by
    intro w hw
    refine ⟨⟨[], [], by simp, by simp, by simp⟩, fun c hc => ?_, fun c hc => ?_⟩
    · cases w with
      | nil => cases hc; exact hquote
      | cons d w => exact hw c hc
    · rw [List.getLast?_concat] at hc
      cases hc
      exact hquote
  refine ⟨name, q :: value ++ [q], ?_, hsign, hhash, hname, hends (q :: value) fun c hc => ?_⟩
  · have hline : name ++ '=' :: (q :: value ++ [q]) = (name ++ '=' :: q :: value) ++ [q] := by simp
    rw [hline]
    refine hends _ ?_
    rw [List.head?_append_of_ne_nil _ hne]
    exact hname.first
  · cases hc
    exact hquote

/-! ## Files -/

/-- The lines of a file. -/
def linesOf (text : List Char) : List (List Char) := Text.splitChars '\n' (unifyLineEnds text)

/-- The last line of a file that sets the variable sets it to this value, as it is written. -/
def LastSets (text name value : List Char) : Prop :=
  ∃ before line after, linesOf text = before ++ line :: after ∧ SetsTo line name value ∧
    ∀ later ∈ after, ∀ value', ¬ SetsTo later name value'

theorem unifyLineEnds_of_notMem {s : List Char} (h : '\r' ∉ s) : unifyLineEnds s = s := by
  induction s with
  | nil => rfl
  | cons c s ih =>
    rw [List.mem_cons, not_or] at h
    have hstep : unifyLineEnds (c :: s) = c :: unifyLineEnds s := by
      rw [unifyLineEnds.eq_def]
      split
      case h_1 heq => cases heq; exact absurd rfl h.1
      case h_2 heq => cases heq; exact absurd rfl h.1
      case h_3 heq => cases heq; rfl
      case h_4 heq => cases heq
    rw [hstep, ih h.2]

/-- A text without line ends is one line. -/
theorem linesOf_of_notMem {s : List Char} (hfeed : '\n' ∉ s) (hreturn : '\r' ∉ s) : linesOf s = [s] := by
  rw [linesOf, unifyLineEnds_of_notMem hreturn, Text.splitChars_of_notMem hfeed]

/-- Of the lines about a variable one is the last. -/
theorem exists_lastSets {text name : List Char} (h : ∃ line ∈ linesOf text, ∃ value, SetsTo line name value) :
    ∃ value, LastSets text name value := by
  unfold LastSets
  generalize linesOf text = lines at h ⊢
  induction lines with
  | nil =>
    obtain ⟨_, hmem, _⟩ := h
    cases hmem
  | cons first rest ih =>
    by_cases hlater : ∃ later ∈ rest, ∃ value, SetsTo later name value
    · obtain ⟨value, before, line, after, hrest, hline⟩ := ih hlater
      exact ⟨value, first :: before, line, after, congrArg (first :: ·) hrest, hline⟩
    · obtain ⟨line, hmem, value, hvalue⟩ := h
      obtain rfl | hrest := List.mem_cons.1 hmem
      · exact ⟨value, [], line, rest, rfl, hvalue, fun later hl w hw => hlater ⟨later, hl, w, hw⟩⟩
      · exact absurd ⟨line, hrest, value, hvalue⟩ hlater

/-- The variables that other lines set are others. -/
theorem notMem_variables {lines : List (List Char)} {name : List Char}
    (h : ∀ line ∈ lines, ∀ value, ¬ SetsTo line name value) :
    String.ofList name ∉ (lines.filterMap variableOfLine?).map (·.1) := by
  intro hmem
  obtain ⟨pair, hpair, hname⟩ := List.mem_map.1 hmem
  obtain ⟨line, hline, hread⟩ := List.mem_filterMap.1 hpair
  obtain ⟨name', value, hsets, rfl⟩ := variableOfLine?_eq_some_iff.1 hread
  obtain rfl : name' = name := String.ofList_injective hname
  exact h line hline value hsets

/-- **A variable has the value of the last line about it.** -/
theorem find?_taking_of_lastSets (c : Configuration) {text name value : List Char} (h : LastSets text name value) :
    (c.taking (variablesOfText text)).recorded.find? (String.ofList name) = some (String.ofList (unquote value)) := by
  obtain ⟨before, line, after, hlines, hsets, hlater⟩ := h
  have hread : variableOfLine? line = some (String.ofList name, String.ofList (unquote value)) :=
    variableOfLine?_eq_some_iff.2 ⟨name, value, hsets, rfl⟩
  have hvariables : variablesOfText text = before.filterMap variableOfLine? ++
      (String.ofList name, String.ofList (unquote value)) :: after.filterMap variableOfLine? := by
    rw [variablesOfText, ← linesOf, hlines, List.filterMap_append, List.filterMap_cons_some hread]
  have hlast : (c.taking (variablesOfText text)).recorded =
      ((c.recorded.insertAll (before.filterMap variableOfLine?)).insert (String.ofList name)
        (String.ofList (unquote value))).insertAll (after.filterMap variableOfLine?) := by
    rw [hvariables, taking, OrderedMap.insertAll_append]
    rfl
  rw [hlast, OrderedMap.find?_insertAll_of_notMem (notMem_variables hlater), OrderedMap.find?_insert,
    if_pos (beq_self_eq_true _)]

/-- A variable that no line sets is as it was. -/
theorem find?_taking_of_not_set (c : Configuration) {text name : List Char}
    (h : ∀ value, ¬ LastSets text name value) :
    (c.taking (variablesOfText text)).recorded.find? (String.ofList name) =
      c.recorded.find? (String.ofList name) := by
  refine OrderedMap.find?_insertAll_of_notMem (notMem_variables fun line hline value hsets => ?_) _
  obtain ⟨w, hw⟩ := exists_lastSets ⟨line, hline, value, hsets⟩
  exact h w hw

/-- **What reading a file of variables records.** The variables are those that its lines set, each has the value of
the last line about it, and that is what the line means exactly if it is no single quote, which is read as nothing;
in particular, what a line writes between quotes behind a name is read as it is. -/
theorem readFile_means_iff (c : Configuration) (path : String) {bytes : List UInt8} {text : List Char}
    (htext : Text.decodeUtf8 bytes = .ok text) :
    ∃ c' reports, c.readFile path (.bytes bytes) = .ok (c', reports) ∧
      (∀ name, (∀ w, ¬ LastSets text name w) →
        c'.recorded.find? (String.ofList name) = c.recorded.find? (String.ofList name)) ∧
      (∀ name w value, LastSets text name w → Means w value →
        (c'.recorded.find? (String.ofList name) = some (String.ofList value) ↔ ∀ q, IsQuote q → w ≠ [q])) ∧
      (∀ name q, IsQuote q → LastSets text name [q] → c'.recorded.find? (String.ofList name) = some "") ∧
      ∀ before after name value q, IsQuote q → Text.Trims Text.isBlank name name → name ≠ [] → '=' ∉ name →
        name.head? ≠ some '#' → linesOf text = before ++ (name ++ '=' :: (q :: value ++ [q])) :: after →
        (∀ later ∈ after, ∀ w, ¬ SetsTo later name w) →
        c'.recorded.find? (String.ofList name) = some (String.ofList value) := by
  have hcontent : (FileContent.bytes bytes).text? = some text := by rw [FileContent.text?, htext]; rfl
  obtain ⟨reports, hread⟩ := c.readFile_of_text path hcontent
  refine ⟨_, reports, hread, fun name hname => c.find?_taking_of_not_set hname, fun name w value hlast hmeans => ?_,
    fun name q hq hlast => ?_, fun before after name value q hq hname hne hsign hhash hlines hlater => ?_⟩
  · have hfound := c.find?_taking_of_lastSets hlast
    rw [← unquote_eq_iff hmeans]
    refine ⟨fun hvalue => ?_, fun hvalue => hvalue ▸ hfound⟩
    exact String.ofList_injective (Option.some.inj (hfound.symm.trans hvalue))
  · have hfound := c.find?_taking_of_lastSets hlast
    rw [unquote_lone hq] at hfound
    exact hfound
  · have hlast : LastSets text name (q :: value ++ [q]) :=
      ⟨before, _, after, hlines, setsTo_quoted hq hname hne hsign hhash, hlater⟩
    have hfound := c.find?_taking_of_lastSets hlast
    rw [unquote_quoted hq] at hfound
    exact hfound

/-! ## A single quote -/

/-- A file that sets a variable twice, with a comment between the two lines. -/
def twiceSet : List Char := "K = 'a'\n# K=c\nK=\"b = #'\"".toList

/-- The later line counts, and what it writes between the quotes is read as it is. -/
theorem later_line_read : ∃ c reports,
    ({} : Configuration).readFile ".env" (.bytes (Text.encodeUtf8 (String.ofList twiceSet))) = .ok (c, reports) ∧
      c.recorded.find? "K" = some "b = #'" := by
  have htext : Text.decodeUtf8 (Text.encodeUtf8 (String.ofList twiceSet)) = .ok twiceSet := by decide +kernel
  have hname : Text.Trims Text.isBlank ['K'] ['K'] := Text.trims_iff.2 (by decide +kernel)
  obtain ⟨c, reports, hread, -, -, -, hquoted⟩ := readFile_means_iff {} ".env" htext
  exact ⟨c, reports, hread, hquoted ["K = 'a'".toList, "# K=c".toList] [] ['K'] "b = #'".toList '"' (.inl rfl) hname
    (by decide) (by decide) (by decide) (by decide +kernel) fun _ h => nomatch h⟩

/-- **A value that is a single quote is lost.** It begins and ends with a quote, but they are not two, so that the line
means the quote itself; what is recorded is nothing. -/
theorem lone_quote_emptied :
    LastSets "K=\"".toList ['K'] ['"'] ∧ Means ['"'] ['"'] ∧
      ∃ c reports, ({} : Configuration).readFile ".env" (.bytes (Text.encodeUtf8 "K=\"")) = .ok (c, reports) ∧
        c.recorded.find? "K" = some "" := by
  have htext : (FileContent.bytes (Text.encodeUtf8 "K=\"")).text? = some "K=\"".toList := by decide +kernel
  have hsets : SetsTo "K=\"".toList ['K'] ['"'] := by
    refine ⟨['K'], ['"'], ?_, by decide, by decide, ?_, ?_⟩
    all_goals exact Text.trims_iff.2 (by decide +kernel)
  have hlast : LastSets "K=\"".toList ['K'] ['"'] :=
    ⟨[], _, [], linesOf_of_notMem (by decide) (by decide), hsets, fun _ h => nomatch h⟩
  have hplain : ∀ q inner, IsQuote q → ['"'] ≠ q :: inner ++ [q] := by
    intro q inner _ h
    have hlength := congrArg List.length h
    simp at hlength
  obtain ⟨reports, hread⟩ := readFile_of_text {} ".env" htext
  have hfound := find?_taking_of_lastSets {} hlast
  rw [unquote_lone (.inl rfl)] at hfound
  exact ⟨hlast, .plain hplain, _, reports, hread, hfound⟩

end Configuration

end Stepwise
