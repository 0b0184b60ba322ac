import Stepwise.Proofs.Cutting
import Stepwise.Proofs.Integers
import Stepwise.Proofs.Trees
/-!
# Scalars as they are written

Whatever style is chosen for a text, what is written for it is one scalar, which is read as the text. Before a
colon it stands on one short line.
-/

namespace Stepwise.Document

open Document.Place

variable {p q : Page} {m n : Nat} {s cs w v : List Char} {c : Char}

/-! ## Styles -/

namespace Leaf

/-- The style in which the data is written, in front of a colon or elsewhere. -/
def style (isKey : Bool) (x : Leaf) : Style :=
  chooseStyle (analyse x.shown.toList) none (tagOf x.kind = plainTag x.shown) isKey

def token (isKey : Bool) (x : Leaf) : Token := .scalar x.shown (x.style isKey)

end Leaf

/-! ## The first word -/

/-- A token begins with the text. -/
def BeginsToken (w : List Char) : Prop := ∃ c cs, w = c :: cs ∧ isGap c = false ∧ c ≠ '#' ∧ c.toNat ≠ 0xfeff

theorem BeginsToken.atToken {a : Place} (h : BeginsToken w) (hrest : a.rest = w ++ v) : AtToken a := by
  obtain ⟨c, cs, rfl, hgap, hhash, hmark⟩ := h
  exact atToken_of_rest hrest hgap hhash hmark

theorem opensPlain_of_word {rest : List Char} (hs : (analyse (cs ++ rest)).plain = true) (hword : IsPlainWord cs)
    (hrest : ∀ c ∈ rest.head?, c = ' ') : OpensPlain cs := by
  obtain ⟨c, ds, rfl⟩ := List.exists_cons_of_ne_nil hword.ne
  obtain ⟨-, -, -, hindicator, -⟩ := unquotable_of_plain hs (List.cons_ne_nil _ _)
  simp only [isIndicator, if_true, Bool.or_eq_false_iff] at hindicator
  have hmarkers : ['-', '-', '-'].isPrefixOf (c :: ds ++ rest) = false ∧
      ['.', '.', '.'].isPrefixOf (c :: ds ++ rest) = false := by
    simp only [analyse, List.cons_append, List.isEmpty_cons, Bool.false_eq_true, if_false, Bool.not_eq_true',
      Bool.or_eq_false_iff] at hs
    exact hs.2
  have hno {x : List Char} (hx : x.isPrefixOf (c :: ds ++ rest) = false) : ¬ x <+: c :: ds := fun h =>
    absurd (List.isPrefixOf_iff_prefix.2 (h.trans (List.prefix_append _ rest))) (by rw [hx]; exact Bool.false_ne_true)
  refine ⟨hword, fun d hd => ?_, fun d hd => ?_, hno hmarkers.1, hno hmarkers.2⟩
  · obtain rfl : c = d := Option.some.inj hd
    exact hindicator.1
  · obtain ⟨rfl, rfl⟩ := List.cons.inj hd
    have hgap : beginsGap ([] ++ rest) = true := by
      cases rest with
      | nil => rfl
      | cons e rest =>
        obtain rfl := hrest e rfl
        rfl
    have hmeans : ((c = '?' || c = ':' || c = '-') && beginsGap ([] ++ rest)) = false := hindicator.2
    rw [hgap, Bool.and_true] at hmeans
    simp only [Bool.or_eq_false_iff, decide_eq_false_iff_not] at hmeans
    exact ⟨hmeans.2, hmeans.1.1, hmeans.1.2⟩

/-! ## How scalars are written -/

/-- What is written for a scalar, in front of a colon or elsewhere. -/
def putScalar (isKey : Bool) (x : Leaf) (p : Page) : Page :=
  let inner := p.deeper true false
  let written := match x.style isKey with
    | .plain => putPlain inner x.shown.toList (!isKey)
    | .single => putSingle inner x.shown.toList (!isKey)
    | _ => putDouble inner x.shown.toList (!isKey)
  { written with indent := p.indent }

/-- The style that is chosen, and what it needs. -/
inductive Chosen (isKey : Bool) (x : Leaf) : Prop
  | plain : x.style isKey = .plain → tagOf x.kind = plainTag x.shown → (analyse x.shown.toList).plain = true → Chosen isKey x
  | single : x.style isKey = .single → (analyse x.shown.toList).single = true →
      (isKey = true → (analyse x.shown.toList).multiline = false) → Chosen isKey x
  | double : x.style isKey = .double → Chosen isKey x

theorem chosen (isKey : Bool) (x : Leaf) : Chosen isKey x := by
  generalize hstyle : x.style isKey = style
  have hs := hstyle
  unfold Leaf.style chooseStyle at hs
  split at hs
  case isTrue h =>
    simp only [Option.isNone_none, Bool.true_and, Bool.and_eq_true, decide_eq_true_eq] at h
    exact .plain (hstyle.trans hs.symm) h.1.1 h.2
  case isFalse =>
    rw [if_neg (by simp)] at hs
    split at hs
    case isTrue h =>
      simp only [Option.isNone_none, Bool.true_and, Bool.and_eq_true, Bool.not_eq_true', Bool.and_eq_false_iff] at h
      exact .single (hstyle.trans hs.symm) h.1 fun hkey => h.2.resolve_left (by simp [hkey])
    case isFalse => exact .double (hstyle.trans hs.symm)

/-- Data whose tag quotes say, or its text does. -/
def Leaf.Fits (x : Leaf) : Prop :=
  x.kind = "str" ∨ (analyse x.shown.toList).plain = true ∧ plainTag x.shown = tagOf x.kind

theorem Leaf.fits (x : Leaf) : x.Fits := by
  cases x with
  | null => exact .inr ⟨by decide, by decide⟩
  | bool b => cases b <;> exact .inr ⟨by decide, by decide⟩
  | int n =>
    have hnumeral := isNumeral_toString n
    have htag := hnumeral.plainTag
    rw [String.ofList_toList] at htag
    exact .inr ⟨hnumeral.plain, htag⟩
  | text s => exact .inl rfl

/-- Nothing is written as no text at all. -/
theorem Leaf.shown_ne {isKey : Bool} {x : Leaf} (h : x.style isKey = .plain) : x.shown ≠ "" := by
  intro hempty
  have htag : tagOf x.kind = plainTag x.shown := by
    cases chosen isKey x with
    | plain _ htag => exact htag
    | single hstyle => rw [hstyle] at h; cases h
    | double hstyle => rw [hstyle] at h; cases h
  cases x with
  | null => exact absurd hempty (by decide)
  | bool b => cases b <;> exact absurd hempty (by decide)
  | int n =>
    have hnumeral := isNumeral_toString n
    have htext := hnumeral.text
    rw [show (toString n).toList = [] from congrArg String.toList hempty] at htext
    exact hnumeral.ne (List.append_eq_nil_iff.1 htext.symm).2
  | text s =>
    rw [hempty] at htag
    exact absurd htag (show tagOf "str" ≠ plainTag "" by decide)

theorem kind_of_quoted {isKey : Bool} {x : Leaf} (hkey : isKey = true → x.kind = "str")
    (hstyle : x.style isKey ≠ .plain) : x.kind = "str" := by
  by_contra hkind
  obtain ⟨hplain, htag⟩ := x.fits.resolve_left hkind
  cases isKey with
  | true => exact hkind (hkey rfl)
  | false => exact hstyle (by simp [Leaf.style, chooseStyle, hplain, htag])

theorem putContent_scalar {g : Graph} {put : Spot → NodeId → Writing → Writing} {spot : Spot} {x : Leaf}
    (hkey : spot.isKey = true → x.kind = "str") (u : Writing) :
    putContent g [] put spot ⟨tagOf x.kind, .scalar x.shown none⟩ u =
      { u with page := putScalar spot.isKey x u.page } := by
  unfold putContent putScalar
  cases chosen spot.isKey x with
  | plain hstyle htag =>
    have hchoice : chooseStyle (analyse x.shown.toList) none (tagOf x.kind = plainTag x.shown) spot.isKey = .plain := hstyle
    simp only [implicitTag, hchoice]
    simp only [hstyle, htag, decide_true, if_true]
  | single hstyle =>
    have hchoice : chooseStyle (analyse x.shown.toList) none (tagOf x.kind = plainTag x.shown) spot.isKey = .single := hstyle
    have hkind := kind_of_quoted hkey (by rw [hstyle]; decide)
    simp only [implicitTag, hchoice]
    simp only [hstyle, hkind, decide_true, if_true, reduceCtorEq, if_false]
  | double hstyle =>
    have hchoice : chooseStyle (analyse x.shown.toList) none (tagOf x.kind = plainTag x.shown) spot.isKey = .double := hstyle
    have hkind := kind_of_quoted hkey (by rw [hstyle]; decide)
    simp only [implicitTag, hchoice]
    simp only [hstyle, hkind, decide_true, if_true, reduceCtorEq, if_false]

/-! ## Behind a mark -/

theorem IsScalar.begins {t : Token} (h : IsScalar n w t) : BeginsToken w := by
  cases h with
  | single hhead =>
    obtain ⟨v, rfl⟩ := List.head?_eq_some_iff.1 hhead
    exact ⟨_, _, rfl, by decide, by decide, by decide⟩
  | double hhead =>
    obtain ⟨v, rfl⟩ := List.head?_eq_some_iff.1 hhead
    exact ⟨_, _, rfl, by decide, by decide, by decide⟩
  | @plain cs tail s hopens =>
    obtain ⟨c, ds, rfl⟩ := List.exists_cons_of_ne_nil hopens.word.ne
    refine ⟨c, ds ++ tail, rfl, hopens.word.gap c List.mem_cons_self, ?_, (hopens.word.column c List.mem_cons_self).2⟩
    rintro rfl
    exact absurd (hopens.first '#' rfl) (by decide)

theorem foldl_putUnquoted_atIndent {runs : List Stretch} (h : PlainTurns runs) (split : Bool) (hp : p.atIndent = false) :
    (runs.foldl (putUnquoted split) p).atIndent = false := by
  induction h generalizing p with
  | nil => exact hp
  | step _ _ _ _ ih =>
    refine ih ?_
    change (putUnquoted split p _).atIndent = false
    unfold putUnquoted
    dsimp only
    split
    · rfl
    · exact hp

/-- Behind a scalar the next line has yet to be begun. -/
theorem atIndent_putScalar (isKey : Bool) (x : Leaf) :
    (putScalar isKey x p).atIndent = false := by
  unfold putScalar
  cases chosen isKey x with
  | single hstyle =>
    simp only [hstyle]
    exact Bool.and_false _
  | double hstyle =>
    simp only [hstyle]
    exact Bool.and_false _
  | plain hstyle _ hplain =>
    simp only [hstyle]
    have hne : x.shown.toList ≠ [] := by simpa using Leaf.shown_ne hstyle
    have harranged := plainArranged_runsOf (unquotable_of_plain hplain hne)
    rw [putPlain, List.isEmpty_eq_false_iff.2 hne]
    generalize runsOf x.shown.toList = runs at harranged
    generalize hinner : (if (p.deeper true false).afterBlank then p.deeper true false else (p.deeper true false).put [' ']) = inner
    cases harranged with
    | gap hturns => exact foldl_putUnquoted_atIndent hturns _ rfl
    | word _ hturns => exact foldl_putUnquoted_atIndent hturns _ rfl

/-- **What is written for data without parts is one scalar**, its token. -/
theorem putScalar_written {isKey : Bool} {x : Leaf}
    (hchars : ∀ c ∈ x.shown.toList, c.toNat ≠ 0x85)
    (hdeep : x.style isKey = .double → isKey = false → lineWidth ≤ m + 2 → ¬ BlankBehindEscape x.shown.toList)
    (hp : p.indent = some m) (hcolumn : m + 1 ≤ p.column) :
    ∃ w, p.Writes ((if p.afterBlank then [] else [' ']) ++ w) (putScalar isKey x p) ∧
      IsScalar (m + 2) w (x.token isKey) := by
  have hinner : (p.deeper true false).indent = some (m + 2) := by
    simp [Page.deeper, hp]
  have hout {v : List Char} {q : Page} (h : (p.deeper true false).Writes v q) : p.Writes v { q with indent := p.indent } :=
    ⟨h.out, rfl⟩
  unfold putScalar Leaf.token
  cases chosen isKey x with
  | single hstyle hsingle =>
    simp only [hstyle]
    obtain ⟨w, hw, hread⟩ := putSingle_written hsingle hinner (Nat.succ_pos _) (!isKey)
    rw [(reread_eq_iff hsingle).2 hchars, String.ofList_toList] at hread
    exact ⟨'\'' :: w, hout hw, .single rfl hread⟩
  | double hstyle =>
    simp only [hstyle]
    obtain ⟨w, hw, hread⟩ := putDouble_written hinner (Nat.succ_pos _) (Nat.succ_le_succ hcolumn) (!isKey) x.shown.toList
    rw [(rereadDouble_eq_iff _ _ _).2 fun hkey => hdeep hstyle (by simpa using hkey), String.ofList_toList] at hread
    exact ⟨'"' :: w, hout hw, .double rfl hread⟩
  | plain hstyle _ hplain =>
    simp only [hstyle]
    have hne : x.shown.toList ≠ [] := by simpa using Leaf.shown_ne hstyle
    obtain ⟨cs, rest, tail, hs, hrest, hword, htail, hw, hread⟩ :=
      putPlain_written hplain hne hinner (Nat.succ_pos _) (!isKey)
    have hopens : OpensPlain cs := opensPlain_of_word (hs ▸ hplain) hword hrest
    refine ⟨cs ++ tail, hout hw, ?_⟩
    have hscalar : IsScalar (m + 2) (cs ++ tail) (.scalar (String.ofList x.shown.toList) .plain) :=
      .plain hopens htail hread
    rwa [String.ofList_toList] at hscalar

/-! ## Printed characters -/

/-- A character that a line of a document holds as it is. -/
def IsPrinted (c : Char) : Prop := IsOneColumn c ∧ isAllowed c = true

theorem isPrinted_of_letter {l : Char} (h : escapeOf? l = some c) : IsPrinted l := by
  unfold escapeOf? at h
  split at h
  all_goals first
    | exact ⟨⟨by decide, by decide⟩, by decide⟩
    | cases h

theorem isPrinted_upperHex {width k : Nat} {d : Char} (h : d ∈ upperHex width k) : IsPrinted d := by
  obtain ⟨i, -, rfl⟩ := List.mem_map.1 h
  have hall : ∀ e : Fin 16, IsPrinted (if e.val < 10 then Char.ofNat (48 + e.val) else Char.ofNat (55 + e.val)) := by
    unfold IsPrinted IsOneColumn
    decide
  exact hall ⟨_, Nat.mod_lt _ (by decide)⟩

theorem isPrinted_escapeChar {d : Char} (h : d ∈ escapeChar c) : IsPrinted d := by
  have hslash : IsPrinted '\\' := ⟨⟨by decide, by decide⟩, by decide⟩
  rcases escapeChar_cases c with ⟨l, hl, hletter⟩ | ⟨l, width, hl, -, hwidth, -⟩
  · rw [hl] at h
    rcases List.mem_cons.1 h with rfl | h
    · exact hslash
    · obtain rfl := List.mem_singleton.1 h
      exact isPrinted_of_letter hletter
  · rw [hl] at h
    rcases List.mem_cons.1 h with rfl | h
    · exact hslash
    · rcases List.mem_cons.1 h with rfl | h
      · unfold escapeWidth? at hwidth
        split at hwidth
        all_goals first
          | exact ⟨⟨by decide, by decide⟩, by decide⟩
          | cases hwidth
      · exact isPrinted_upperHex h

theorem length_escapeChar (hc : c.toNat ≤ 0xffff) : (escapeChar c).length ≤ 6 := by
  unfold escapeChar
  split
  case h_16 =>
    dsimp only
    rw [if_pos hc]
    split
    · simp [length_upperHex]
    · simp [length_upperHex]
  all_goals simp

theorem isPrinted_of_not_escaped (h : needsEscape c = false) : IsPrinted c := by
  simp only [needsEscape, Bool.or_eq_false_iff, decide_eq_false_iff_not, Bool.not_eq_false', Bool.or_eq_true,
    Bool.and_eq_true, decide_eq_true_eq] at h
  obtain ⟨⟨⟨⟨⟨⟨-, -⟩, h₁⟩, h₂⟩, h₃⟩, h₄⟩, hrange⟩ := h
  have hne (d : Char) (hd : d.toNat = 10 ∨ d.toNat = 13) : c ≠ d := by
    rintro rfl
    omega
  refine ⟨⟨?_, h₄⟩, ?_⟩
  · simp only [isBreak, hne '\n' (.inl rfl), hne '\r' (.inr rfl), h₁, h₂, h₃, decide_false, Bool.or_self]
  · simp only [isAllowed, Bool.or_eq_true, decide_eq_true_eq, Bool.and_eq_true]
    omega

theorem isAllowed_of_not_special (h : isSpecial c = false) : isAllowed c = true := by
  simp only [isSpecial, Bool.and_eq_false_iff, Bool.not_eq_false', Bool.or_eq_true, decide_eq_true_eq,
    Bool.and_eq_true] at h
  simp only [isAllowed, Bool.or_eq_true, decide_eq_true_eq, Bool.and_eq_true]
  rcases h with (rfl | h) | h
  · decide
  · omega
  · omega

theorem isPrinted_of_plain (hspecial : isSpecial c = false) (hbreak : isTextBreak c = false) : IsPrinted c :=
  ⟨isOneColumn_of_plain hspecial hbreak, isAllowed_of_not_special hspecial⟩

/-! ## In front of a colon -/

namespace Page

/-- The second page is the first with a text written behind it on the same line. -/
structure Puts (p : Page) (w : List Char) (q : Page) : Prop extends p.Writes w q where
  column : q.column = p.column + w.length

theorem Puts.refl (p : Page) : p.Puts [] p := ⟨.refl p, rfl⟩

theorem Puts.trans {r : Page} (h : p.Puts w q) (h' : q.Puts v r) : p.Puts (w ++ v) r :=
  ⟨h.toWrites.trans h'.toWrites, by rw [h'.column, h.column, List.length_append, Nat.add_assoc]⟩

theorem puts_put (p : Page) (w : List Char) : p.Puts w (p.put w) := ⟨writes_put p w, rfl⟩

theorem puts_indicator (p : Page) (s : String) (needBlank blankAfter keepsIndent : Bool) :
    p.Puts ((if p.afterBlank || !needBlank then [] else [' ']) ++ s.toList)
      (p.indicator s needBlank blankAfter keepsIndent) := by
  refine ⟨writes_indicator p s needBlank blankAfter keepsIndent, ?_⟩
  unfold indicator
  cases p.afterBlank || !needBlank
  · simp [Nat.add_comm, ← String.length_toList]
  · simp [← String.length_toList]

/-- What has been written is determined by the pages. -/
theorem Writes.unique (h : p.Writes w q) (h' : p.Writes v q) : w = v := by
  have hout := h.out.symm.trans h'.out
  have hlist := congrArg String.toList hout
  simpa using hlist

end Page

/-- No line ends. -/
def NoBreaks (runs : List Stretch) : Prop := ∀ cs, Stretch.breaks cs ∉ runs

theorem mem_of_addChar {runs : List Stretch} {bs : List Char} (hc : isTextBreak c = false)
    (h : Stretch.breaks bs ∈ addChar c runs) : Stretch.breaks bs ∈ runs := by
  unfold addChar at h
  rw [hc] at h
  by_cases hspace : c = ' '
  · rw [if_pos hspace] at h
    split at h
    all_goals simpa using h
  · rw [if_neg hspace, if_neg Bool.false_ne_true] at h
    split at h
    all_goals simpa using h

theorem noBreaks_runsOf (hs : ∀ c ∈ s, isTextBreak c = false) : NoBreaks (runsOf s) := by
  induction s with
  | nil => exact fun cs => List.not_mem_nil
  | cons c s ih =>
    have hmore : NoBreaks (runsOf s) := ih fun d hd => hs d (List.mem_cons_of_mem _ hd)
    exact fun bs hbs => hmore bs (mem_of_addChar (hs c List.mem_cons_self) hbs)

/-- Where lines are not folded, words and blanks are written as they are. -/
theorem puts_unquoted {runs : List Stretch} (h : NoBreaks runs) (p : Page) :
    p.Puts (runs.flatMap Stretch.chars) (runs.foldl (putUnquoted false) p) := by
  induction runs generalizing p with
  | nil => exact .refl p
  | cons r runs ih =>
    have hmore : NoBreaks runs := fun cs hcs => h cs (List.mem_cons_of_mem _ hcs)
    have hput : p.Puts r.chars (putUnquoted false p r) := by
      cases r with
      | blanks n =>
        unfold putUnquoted
        simp only [Bool.and_false, Bool.false_eq_true, if_false]
        exact Page.puts_put p _
      | text cs => exact Page.puts_put p cs
      | breaks cs => exact absurd List.mem_cons_self (h cs)
    exact hput.trans (ih hmore _)

theorem doubled_of_blanks (n : Nat) : doubled (List.replicate n ' ') = List.replicate n ' ' := by
  induction n with
  | zero => rfl
  | succ n ih => rw [List.replicate_succ, doubled_cons, ih]; rfl

theorem puts_quoted {runs : List Stretch} (h : NoBreaks runs) (count i : Nat) (p : Page) :
    p.Puts (doubled (runs.flatMap Stretch.chars)) (runs.foldl (putQuoted false count) (p, i)).1 := by
  induction runs generalizing p i with
  | nil => exact .refl p
  | cons r runs ih =>
    have hmore : NoBreaks runs := fun cs hcs => h cs (List.mem_cons_of_mem _ hcs)
    have hput : p.Puts (doubled r.chars) (putQuoted false count (p, i) r).1 := by
      cases r with
      | blanks n =>
        have hblanks : doubled (Stretch.blanks n).chars = List.replicate n ' ' :=
          doubled_of_blanks n
        unfold putQuoted
        simp only [Bool.and_false, Bool.false_and, Bool.false_eq_true, if_false, hblanks]
        exact Page.puts_put p _
      | text cs => exact Page.puts_put p _
      | breaks cs => exact absurd List.mem_cons_self (h cs)
    rw [List.flatMap_cons, doubled_append]
    exact hput.trans (ih hmore _ _)

/-- A character between double quotes. -/
def inQuotes (c : Char) : List Char := if needsEscape c then escapeChar c else [c]

theorem puts_doubleLoop (p : Page) (position : Nat) (held s : List Char) :
    p.Puts (held.reverse ++ s.flatMap inQuotes) (doubleLoop false p position held s) := by
  induction s generalizing p position held with
  | nil =>
    rw [doubleLoop, List.flatMap_nil, List.append_nil]
    cases held with
    | nil => exact .refl p
    | cons d ds => exact Page.puts_put p _
  | cons c s ih =>
    rw [doubleLoop]
    simp only [Bool.and_false, Bool.false_and, Bool.false_eq_true, if_false, List.flatMap_cons, inQuotes]
    split
    case isTrue hc =>
      have hheld : p.Puts held.reverse (if held.isEmpty then p else p.put held.reverse) := by
        cases held with
        | nil => exact .refl p
        | cons d ds => exact Page.puts_put p _
      have hmore := (hheld.trans (Page.puts_put _ (escapeChar c))).trans (ih _ (position + 1) [])
      simpa using hmore
    case isFalse hc =>
      have := ih p (position + 1) (c :: held)
      simpa using this

theorem breaks_scan (f : Findings) (first before prevSpace prevBreak : Bool) (s : List Char) :
    (scan f first before prevSpace prevBreak s).breaks = (f.breaks || s.any isTextBreak) := by
  induction s generalizing f first before prevSpace prevBreak with
  | nil => rw [scan, List.any_nil, Bool.or_false]
  | cons c s ih => rw [scan, ih, look_breaks, List.any_cons, Bool.or_assoc]

theorem not_isTextBreak_of_line (h : (analyse s).multiline = false) : ∀ c ∈ s, isTextBreak c = false := by
  cases s with
  | nil => simp
  | cons c s =>
    have hbreaks : (scan {} true true false false (c :: s)).breaks = false := h
    rw [breaks_scan] at hbreaks
    simpa using hbreaks

theorem not_isSpecial_of_plain {first : Bool} {prev : Char} (h : Unquotable first prev s) :
    ∀ c ∈ s, isSpecial c = false := by
  induction s generalizing first prev with
  | nil => simp
  | cons c s ih =>
    intro d hd
    rcases List.mem_cons.1 hd with rfl | hd
    · exact h.1
    · exact ih h.2.2.2.2 d hd

theorem length_doubled_le (s : List Char) : (doubled s).length ≤ 2 * s.length := by
  induction s with
  | nil => exact Nat.le_refl 0
  | cons c s ih =>
    rw [doubled_cons, List.length_append, List.length_cons]
    split <;> simp <;> omega

theorem length_inQuotes_le (s : List Char) (hs : ∀ c ∈ s, c.toNat ≤ 0xffff) :
    (s.flatMap inQuotes).length ≤ 6 * s.length := by
  induction s with
  | nil => exact Nat.le_refl 0
  | cons c s ih =>
    have hc : (inQuotes c).length ≤ 6 := by
      unfold inQuotes
      split
      · exact length_escapeChar (hs c List.mem_cons_self)
      · simp
    have hmore := ih fun d hd => hs d (List.mem_cons_of_mem _ hd)
    rw [List.flatMap_cons, List.length_append, List.length_cons]
    omega

theorem mem_of_doubled {d : Char} (h : d ∈ doubled s) : d ∈ s := by
  obtain ⟨c, hc, hd⟩ := List.mem_flatMap.1 h
  split at hd
  case isTrue hquote =>
    subst hquote
    simp only [List.mem_cons, List.not_mem_nil, or_false, or_self] at hd
    exact hd ▸ hc
  case isFalse => exact List.mem_singleton.1 hd ▸ hc

/-- **A text on one line is written in front of a colon at one go**, wherever that is. -/
theorem exists_key {x : Leaf}
    (hline : (analyse x.shown.toList).multiline = false) (hbasic : ∀ c ∈ x.shown.toList, c.toNat ≤ 0xffff) :
    ∃ w, (∀ c ∈ w, IsPrinted c) ∧ w.length ≤ 6 * x.shown.toList.length + 2 ∧
      ∀ p : Page, p.afterBlank = true → p.Puts w (putScalar true x p) := by
  have hbreaks := not_isTextBreak_of_line hline
  have hruns := noBreaks_runsOf hbreaks
  have hchars := chars_runsOf x.shown.toList
  have hinner {p q : Page} {w : List Char} (h : (p.deeper true false).Puts w q) : p.Puts w { q with indent := p.indent } :=
    ⟨⟨h.out, rfl⟩, h.column⟩
  unfold putScalar
  cases chosen true x with
  | plain hstyle _ hplain =>
    have hne : x.shown.toList ≠ [] := by simpa using Leaf.shown_ne hstyle
    have hspecial := not_isSpecial_of_plain (unquotable_of_plain hplain hne)
    refine ⟨x.shown.toList, fun c hc => isPrinted_of_plain (hspecial c hc) (hbreaks c hc), by omega, fun p hp => ?_⟩
    simp only [hstyle]
    refine hinner ?_
    have hstart : (p.deeper true false).afterBlank = true := hp
    rw [putPlain, List.isEmpty_eq_false_iff.2 hne, if_neg Bool.false_ne_true, hstart, if_pos rfl]
    have hput := puts_unquoted hruns { (p.deeper true false) with afterBlank := false, atIndent := false }
    rw [hchars] at hput
    exact ⟨⟨hput.out, hput.indent⟩, hput.column⟩
  | single hstyle hsingle =>
    have hspecial := (apart_of_single hsingle).1
    refine ⟨'\'' :: (doubled x.shown.toList ++ ['\'']), fun c hc => ?_, ?_, fun p hp => ?_⟩
    · have hquote : IsPrinted '\'' := ⟨⟨by decide, by decide⟩, by decide⟩
      simp only [List.mem_cons, List.mem_append, List.not_mem_nil, or_false] at hc
      rcases hc with rfl | hc | rfl
      · exact hquote
      · exact isPrinted_of_plain (hspecial c (mem_of_doubled hc)) (hbreaks c (mem_of_doubled hc))
      · exact hquote
    · have := length_doubled_le x.shown.toList
      simp only [List.length_cons, List.length_append, List.length_nil]
      omega
    · simp only [hstyle]
      refine hinner ?_
      have hopen := Page.puts_indicator (p.deeper true false) "'" true false false
      rw [show (p.deeper true false).afterBlank = true from hp] at hopen
      have hput := puts_quoted hruns (runsOf x.shown.toList).length 0 ((p.deeper true false).indicator "'" true false false)
      rw [hchars] at hput
      simpa [putSingle] using (hopen.trans hput).trans (Page.puts_indicator _ "'" false false false)
  | double hstyle =>
    refine ⟨'"' :: (x.shown.toList.flatMap inQuotes ++ ['"']), fun c hc => ?_, ?_, fun p hp => ?_⟩
    · have hquote : IsPrinted '"' := ⟨⟨by decide, by decide⟩, by decide⟩
      simp only [List.mem_cons, List.mem_append, List.mem_flatMap, List.not_mem_nil, or_false] at hc
      rcases hc with rfl | ⟨d, -, hd⟩ | rfl
      · exact hquote
      · unfold inQuotes at hd
        split at hd
        case isTrue => exact isPrinted_escapeChar hd
        case isFalse h =>
          obtain rfl := List.mem_singleton.1 hd
          exact isPrinted_of_not_escaped (Bool.eq_false_iff.2 h)
      · exact hquote
    · have := length_inQuotes_le x.shown.toList hbasic
      simp only [List.length_cons, List.length_append, List.length_nil]
      omega
    · simp only [hstyle]
      refine hinner ?_
      have hopen := Page.puts_indicator (p.deeper true false) "\"" true false false
      rw [show (p.deeper true false).afterBlank = true from hp] at hopen
      have hput := puts_doubleLoop ((p.deeper true false).indicator "\"" true false false) 0 [] x.shown.toList
      simpa [putDouble] using (hopen.trans hput).trans (Page.puts_indicator _ "\"" false false false)

/-- **Such a text is one scalar on its line**, at every page. -/
theorem putScalar_key {x : Leaf}
    (hline : (analyse x.shown.toList).multiline = false)
    (hchars : ∀ c ∈ x.shown.toList, c.toNat ≠ 0x85 ∧ c.toNat ≤ 0xffff) (m : Nat) :
    ∃ w, IsScalar (m + 2) w (x.token true) ∧ (∀ c ∈ w, IsPrinted c) ∧ w.length ≤ 6 * x.shown.toList.length + 2 ∧
      ∀ p : Page, p.afterBlank = true → p.Puts w (putScalar true x p) := by
  obtain ⟨w, hprinted, hlength, hputs⟩ := exists_key hline fun c hc => (hchars c hc).2
  obtain ⟨v, hv, hscalar⟩ := putScalar_written (p := ⟨"", m + 1, true, true, some m⟩)
    (fun c hc => (hchars c hc).1) (fun _ (hkey : true = false) => absurd hkey.symm Bool.false_ne_true) rfl (Nat.le_refl _)
  obtain rfl : w = v := (hputs _ rfl).toWrites.unique hv
  exact ⟨w, hscalar, hprinted, hlength, hputs⟩

/-! ## Nothing else is written -/

/-- Everything on the page may stand in a document. -/
def Page.Clean (p : Page) : Prop := ∀ c ∈ p.out.toList, isAllowed c = true

namespace Page

theorem Writes.clean (h : p.Writes w q) (hw : ∀ c ∈ w, isAllowed c = true) (hp : p.Clean) : q.Clean := by
  intro c hc
  rw [h.out, String.toList_append, String.toList_ofList] at hc
  rcases List.mem_append.1 hc with hc | hc
  · exact hp c hc
  · exact hw c hc

theorem Clean.indicator (hp : p.Clean) {s : String} (hs : s.toList.all isAllowed = true)
    (needBlank blankAfter keepsIndent : Bool) : (p.indicator s needBlank blankAfter keepsIndent).Clean := by
  refine (writes_indicator p s needBlank blankAfter keepsIndent).clean (fun c hc => ?_) hp
  rcases List.mem_append.1 hc with hc | hc
  · split at hc
    · cases hc
    · rw [List.mem_singleton.1 hc]
      decide
  · exact List.all_eq_true.1 hs c hc

theorem Clean.put (hp : p.Clean) (hw : ∀ c ∈ w, isAllowed c = true) : (p.put w).Clean := (writes_put p w).clean hw hp

theorem Clean.lineBreak (hp : p.Clean) (hc : isAllowed c = true) : (p.lineBreak c).Clean :=
  (writes_lineBreak p c).clean (fun _ hd => List.mem_singleton.1 hd ▸ hc) hp

theorem isAllowed_blank (n : Nat) : ∀ c ∈ List.replicate n ' ', isAllowed c = true := by
  intro c hc
  rw [List.eq_of_mem_replicate hc]
  decide

theorem Clean.toIndent (hp : p.Clean) : p.toIndent.Clean := by
  unfold Page.toIndent
  dsimp only
  generalize hstart : (if (!p.atIndent || decide (p.column > p.indent.getD 0) ||
    decide (p.column = p.indent.getD 0) && !p.afterBlank) = true then p.lineBreak '\n' else p) = start
  have hclean : start.Clean := by
    subst hstart
    split
    · exact hp.lineBreak (by decide)
    · exact hp
  split
  · exact (hclean.put (isAllowed_blank _) : Page.Clean (start.put _))
  · exact hclean

end Page

theorem clean_foldl {α β : Type} {f : β → α → β} {g : β → Page} {xs : List α}
    (h : ∀ b, (g b).Clean → ∀ x ∈ xs, (g (f b x)).Clean) (b : β) (hb : (g b).Clean) :
    (g (xs.foldl f b)).Clean := by
  induction xs generalizing b with
  | nil => exact hb
  | cons x xs ih =>
    exact ih (fun b hb y hy => h b hb y (List.mem_cons_of_mem _ hy)) _ (h b hb x List.mem_cons_self)

theorem clean_putBreaks (hp : p.Clean) (hw : ∀ c ∈ w, isAllowed c = true) : (putBreaks p w).Clean := by
  unfold putBreaks
  dsimp only
  refine (clean_foldl (g := id) (fun q hq c hc => hq.lineBreak (hw c hc)) _ ?_).toIndent
  split
  · exact hp.lineBreak (by decide)
  · exact hp

/-- A stretch holds nothing that may not stand in a document. -/
def Stretch.Clean (r : Stretch) : Prop := ∀ c ∈ r.chars, isAllowed c = true

theorem clean_runsOf (hs : ∀ c ∈ s, isAllowed c = true) : ∀ r ∈ runsOf s, r.Clean := by
  intro r hr c hc
  refine hs c ?_
  rw [← chars_runsOf s]
  exact List.mem_flatMap.2 ⟨r, hr, hc⟩

theorem clean_putUnquoted (split : Bool) {r : Stretch} (hr : r.Clean) (hp : p.Clean) : (putUnquoted split p r).Clean := by
  cases r with
  | blanks n =>
    unfold putUnquoted
    dsimp only
    split
    · exact (hp.toIndent : Page.Clean p.toIndent)
    · exact hp.put (Page.isAllowed_blank n)
  | breaks cs => exact clean_putBreaks hp hr
  | text cs => exact hp.put hr

theorem clean_putQuoted (split : Bool) (count i : Nat) {r : Stretch} (hr : r.Clean) (hp : p.Clean) :
    (putQuoted split count (p, i) r).1.Clean := by
  cases r with
  | blanks n =>
    unfold putQuoted
    dsimp only
    split
    · exact hp.toIndent
    · exact hp.put (Page.isAllowed_blank n)
  | breaks cs => exact clean_putBreaks hp hr
  | text cs => exact hp.put fun c hc => hr c (mem_of_doubled hc)

theorem clean_doubleLoop (split : Bool) (position : Nat) {held : List Char} (hp : p.Clean)
    (hheld : ∀ c ∈ held, needsEscape c = false) (s : List Char) : (doubleLoop split p position held s).Clean := by
  have hallowed {cs : List Char} (hcs : ∀ c ∈ cs, needsEscape c = false) (c : Char) (hc : c ∈ cs) : isAllowed c = true :=
    (isPrinted_of_not_escaped (hcs c hc)).2
  induction s generalizing p position held with
  | nil =>
    rw [doubleLoop]
    split
    · exact hp
    · exact hp.put fun c hc => hallowed hheld c (List.mem_reverse.1 hc)
  | cons c s ih =>
    have hput : (p.put held.reverse).Clean := hp.put fun c hc => hallowed hheld c (List.mem_reverse.1 hc)
    have hfold {q : Page} (hq : q.Clean) (next : Char) : (q.foldBefore next).Clean := by
      refine Page.Clean.put (?_ : Page.Clean (q.put ['\\']).toIndent) ?_
      · exact (hq.put fun c hc => by rw [List.mem_singleton.1 hc]; decide).toIndent
      · intro d hd
        unfold announce at hd
        split at hd
        · rw [List.mem_singleton.1 hd]
          decide
        · cases hd
    cases hc : needsEscape c with
    | true =>
      obtain ⟨q, hq, -, hloop⟩ := doubleLoop_escaped split p position held hc s
      have hqClean : q.Clean := by
        refine hq.clean (fun d hd => ?_) hp
        rcases List.mem_append.1 hd with hd | hd
        · exact hallowed hheld d (List.mem_reverse.1 hd)
        · exact (isPrinted_escapeChar hd).2
      rw [hloop]
      split
      · exact ih (position + 1) (hfold (hqClean.put (List.forall_mem_nil _)) _) (List.forall_mem_nil _)
      · exact ih (position + 1) hqClean (List.forall_mem_nil _)
    | false =>
      rw [doubleLoop_plain split p position held hc s]
      split
      · exact ih (position + 1) (hfold hput _) (fun d hd => List.mem_singleton.1 hd ▸ hc)
      · refine ih (position + 1) hp fun d hd => ?_
        rcases List.mem_cons.1 hd with rfl | hd
        · exact hc
        · exact hheld d hd

/-- **A scalar is written with nothing that may not stand in a document.** -/
theorem clean_putScalar {isKey : Bool} {x : Leaf} (hp : p.Clean) :
    (putScalar isKey x p).Clean := by
  have hquote (quote : String) (h : quote = "'" ∨ quote = "\"") : quote.toList.all isAllowed = true := by
    rcases h with rfl | rfl <;> decide
  unfold putScalar
  cases chosen isKey x with
  | plain hstyle _ hplain =>
    simp only [hstyle]
    have hne : x.shown.toList ≠ [] := by simpa using Leaf.shown_ne hstyle
    have hclean := clean_runsOf fun c hc =>
      isAllowed_of_not_special (not_isSpecial_of_plain (unquotable_of_plain hplain hne) c hc)
    change (putPlain (p.deeper true false) x.shown.toList (!isKey)).Clean
    rw [putPlain, List.isEmpty_eq_false_iff.2 hne, if_neg Bool.false_ne_true]
    refine clean_foldl (g := id) (fun q hq r hr => clean_putUnquoted _ (hclean r hr) hq) _ ?_
    change (if (p.deeper true false).afterBlank then p.deeper true false else (p.deeper true false).put [' ']).Clean
    split
    · exact hp
    · exact Page.Clean.put hp fun c hc => by rw [List.mem_singleton.1 hc]; decide
  | single hstyle hsingle =>
    simp only [hstyle]
    have hclean := clean_runsOf fun c hc => isAllowed_of_not_special ((apart_of_single hsingle).1 c hc)
    change (putSingle (p.deeper true false) x.shown.toList (!isKey)).Clean
    have hopen : ((p.deeper true false).indicator "'" true false false).Clean :=
      Page.Clean.indicator (p := p.deeper true false) hp (hquote _ (.inl rfl)) true false false
    exact (clean_foldl (g := Prod.fst) (fun b hb r hr => clean_putQuoted _ _ b.2 (hclean r hr) hb) _ hopen).indicator
      (hquote _ (.inl rfl)) false false false
  | double hstyle =>
    simp only [hstyle]
    have hopen : ((p.deeper true false).indicator "\"" true false false).Clean :=
      Page.Clean.indicator (p := p.deeper true false) hp (hquote _ (.inr rfl)) true false false
    exact (clean_doubleLoop (!isKey) 0 hopen (List.forall_mem_nil _) x.shown.toList).indicator (hquote _ (.inr rfl))
      false false false

end Stepwise.Document
