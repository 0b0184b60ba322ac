import Stepwise.Proofs.Folding
/-!
# Texts without quotes

A text without quotes is read word by word, over blanks and folded lines, until something that ends it:
a colon with a gap behind it, or a line that is indented less. `putPlain_kept` says that every text that may
stand without quotes is read back as itself.
-/

namespace Stepwise.Document

open Document.Place

variable {p q : Place} {n : Nat} {s cs w r : List Char} {c : Char}

/-! ## Words -/

/-- A word that may stand without quotes; a colon would end it before a gap. -/
structure IsPlainWord (cs : List Char) : Prop where
  ne : cs ≠ []
  gap : ∀ c ∈ cs, isGap c = false
  colon : cs.getLast? ≠ some ':'
  column : ∀ c ∈ cs, IsOneColumn c

/-- No word goes on here. -/
def EndsPlainWord (p : Place) : Prop :=
  p.rest = [] ∨ (∃ c cs, p.rest = c :: cs ∧ isGap c = true) ∨ ∃ c cs, p.rest = ':' :: c :: cs ∧ isGap c = true

theorem EndsPlainWord.run (h : EndsPlainWord p) : plainRun false p.rest = 0 := by
  rcases h with hr | ⟨c, cs, hr, hc⟩ | ⟨c, cs, hr, hc⟩
  · rw [hr]
    rfl
  · rw [hr]
    simp [plainRun, hc]
  · rw [hr]
    simp [plainRun, hc]

/-- **The run of a word is the word.** -/
theorem plainRun_word (hcs : ∀ c ∈ cs, isGap c = false) (hcolon : cs.getLast? ≠ some ':') (hp : EndsPlainWord p) :
    plainRun false (cs ++ p.rest) = cs.length := by
  induction cs with
  | nil => exact hp.run
  | cons c cs ih =>
    have hc := hcs c List.mem_cons_self
    have hmore : plainRun false (cs ++ p.rest) = cs.length := by
      refine ih (fun d hd => hcs d (List.mem_cons_of_mem _ hd)) fun hlast => hcolon ?_
      rw [List.getLast?_cons, hlast]
      rfl
    have hno : (c = ':' && isGap ((cs ++ p.rest).headD '\x00')) = false := by
      by_cases hcc : c = ':'
      · subst hcc
        cases cs with
        | nil => exact absurd rfl hcolon
        | cons d ds =>
          have hd := hcs d (List.mem_cons_of_mem _ List.mem_cons_self)
          simp [hd]
      · simp [hcc]
    rw [List.cons_append, plainRun]
    simp only [hc, Bool.false_and, Bool.or_false, hno, Bool.false_eq_true, if_false, hmore,
      List.length_cons]

/-! ## Gaps and ends -/

/-- What stands between two words without quotes, and what it is read as. -/
inductive PlainGap (indent : Int) : List Char → List Char → Prop
  | blanks (n : Nat) : PlainGap indent (List.replicate (n + 1) ' ') (List.replicate (n + 1) ' ')
  | fold (n : Nat) : indent ≤ n + 1 → PlainGap indent ('\n' :: List.replicate (n + 1) ' ') [' ']

/-- What ends a text without quotes: where reading goes on, and whether a line has ended. -/
inductive EndsPlain (indent : Int) : Place → Bool → Place → Prop
  | colon {p : Place} {c : Char} {cs : List Char} : p.rest = ':' :: c :: cs → isGap c = true →
      EndsPlain indent p false p
  | line {p q : Place} {n : Nat} : p.Goes ('\n' :: List.replicate n ' ') q → (n : Int) < indent →
      (q.Stops fun c => c = ' ' || isBreak c) → EndsPlain indent p true q

theorem EndsPlain.endsWord {indent : Int} {ended : Bool} (h : EndsPlain indent p ended q) : EndsPlainWord p := by
  cases h with
  | colon hr hc => exact .inr (.inr ⟨_, _, hr, hc⟩)
  | line hgoes => exact .inr (.inl ⟨'\n', _, hgoes.rest, rfl⟩)

theorem PlainGap.head {indent : Int} (h : PlainGap indent w r) : ∃ c rest, w = c :: rest ∧ isGap c = true := by
  cases h with
  | blanks n => exact ⟨' ', List.replicate n ' ', rfl, rfl⟩
  | fold n => exact ⟨'\n', _, rfl, rfl⟩

theorem forall_space (n : Nat) : ∀ c ∈ List.replicate n ' ', decide (c = ' ') = true := by
  intro c hc
  rw [List.eq_of_mem_replicate hc]
  rfl

theorem AtWord.stops (h : AtWord p) : p.Stops fun c => c = ' ' || isBreak c := by
  intro c cs hr
  have hc := h.2 c cs hr
  simp only [Bool.or_eq_false_iff] at hc
  simp only [hc.1.1, hc.2, Bool.or_self]

theorem peek_of_stops (h : p.Stops fun c => c = ' ' || isBreak c) : p.peek ≠ ' ' ∧ isBreak p.peek = false := by
  cases hr : p.rest with
  | nil =>
    rw [Place.peek, hr]
    decide
  | cons c cs =>
    have hc := h c cs hr
    simp only [Bool.or_eq_false_iff, decide_eq_false_iff_not] at hc
    rw [Place.peek, hr]
    exact hc

theorem stops_space (h : p.Stops fun c => c = ' ' || isBreak c) : p.Stops fun c => c = ' ' := by
  intro c cs hr
  have hc := h c cs hr
  simp only [Bool.or_eq_false_iff] at hc
  exact hc.1

/-- The indentation of the next line is passed. -/
theorem plainBreaks_of_goes {fuel : Nat} (h : p.Goes (List.replicate n ' ') q)
    (hq : q.Stops fun c => c = ' ' || isBreak c) (hfuel : n < fuel) : plainBreaks fuel p [] = (some [], q) := by
  induction n generalizing p fuel with
  | zero =>
    obtain ⟨fuel, rfl⟩ := Nat.exists_eq_add_one_of_ne_zero (by omega : fuel ≠ 0)
    obtain rfl : p = q := (Goes.refl p).unique h
    obtain ⟨hspace, hbreak⟩ := peek_of_stops hq
    rw [plainBreaks, if_neg hspace, hbreak]
    rfl
  | succ n ih =>
    obtain ⟨fuel, rfl⟩ := Nat.exists_eq_add_one_of_ne_zero (by omega : fuel ≠ 0)
    have hmore : p.Goes (' ' :: List.replicate n ' ') q := h
    rw [plainBreaks, if_pos hmore.peek]
    exact ih hmore.cons (by omega)

/-- At the end of a line the next one is looked for. -/
theorem plainSpaces_of_line (h : p.Goes ('\n' :: List.replicate n ' ') q)
    (hq : q.Stops fun c => c = ' ' || isBreak c) :
    ∃ blanks, plainSpaces p = (blanks, true, q) ∧ (n ≠ 0 → blanks = [' ']) := by
  have hrest : p.rest = '\n' :: (List.replicate n ' ' ++ q.rest) := h.rest
  have hspan : p.span (fun c => c = ' ') = ([], p) := by
    refine (Goes.refl p).span (List.forall_mem_nil _) fun c cs hc => ?_
    rw [hrest] at hc
    obtain rfl := (List.cons.inj hc).1
    rfl
  have hline : p.lineBreak = (['\n'], p.step) := (Goes.step hrest).lineBreak (by decide) (by decide)
  have hbreak : isBreak p.peek = true := by rw [h.peek]; rfl
  have hbound : n < p.step.rest.length + 1 := by
    rw [h.cons.length_rest, List.length_replicate]
    omega
  have hbreaks := plainBreaks_of_goes h.cons hq hbound
  cases hmarker : p.step.atMarker with
  | true =>
    cases n with
    | zero =>
      obtain rfl : p.step = q := (Goes.refl _).unique h.cons
      refine ⟨[], ?_, fun h => absurd rfl h⟩
      simp only [plainSpaces, hspan, hbreak, hline, hmarker, if_true]
    | succ n =>
      have hspace : p.step.rest = ' ' :: (List.replicate n ' ' ++ q.rest) := h.cons.rest
      rw [atMarker_of_head hspace (by decide) (by decide)] at hmarker
      cases hmarker
  | false =>
    refine ⟨[' '], ?_, fun _ => rfl⟩
    simp only [plainSpaces, hspan, hbreak, hline, hmarker, hbreaks, if_true, Bool.false_eq_true, if_false]
    rfl

/-- **A gap is read as what it stands for.** -/
theorem plainSpaces_of_gap {indent : Int} (hg : PlainGap indent w r) (h : p.Goes w q) (hq : AtWord q) :
    ∃ ended, plainSpaces p = (r, ended, q) := by
  cases hg with
  | blanks n =>
    refine ⟨false, ?_⟩
    simp only [plainSpaces, h.span (forall_space _) (stops_space hq.stops), hq.not_isBreak, Bool.false_eq_true, if_false]
  | fold n =>
    obtain ⟨blanks, hread, hblanks⟩ := plainSpaces_of_line h hq.stops
    rw [hblanks (Nat.succ_ne_zero n)] at hread
    exact ⟨true, hread⟩

theorem isOneColumn_space : IsOneColumn ' ' := ⟨by decide, by decide⟩

theorem column_of_line (h : p.Goes ('\n' :: List.replicate n ' ') q) : q.column = n := by
  obtain ⟨m, hline, hblanks⟩ := (Goes.split h : ∃ m, p.Goes ['\n'] m ∧ m.Goes (List.replicate n ' ') q)
  have hcolumn := (hblanks.column fun c hc => by rw [List.eq_of_mem_replicate hc]; exact isOneColumn_space).2
  rw [hcolumn, hline.column_newline, List.length_replicate, Nat.zero_add]

/-- Behind a gap the text is indented enough to go on. -/
theorem PlainGap.column {indent : Int} (hg : PlainGap indent w r) (h : p.Goes w q)
    (hp : indent ≤ p.column) : indent ≤ q.column := by
  cases hg with
  | blanks n =>
    have hcolumn := (h.column fun c hc => by rw [List.eq_of_mem_replicate hc]; exact isOneColumn_space).2
    rw [hcolumn]
    omega
  | fold n hn =>
    rw [column_of_line h]
    exact_mod_cast hn

/-! ## The whole text -/

/-- What stands behind the first word, and what it is read as: gaps and words by turns. -/
inductive PlainTail (indent : Int) : List Char → List Char → Prop
  | done : PlainTail indent [] []
  | word {w r cs tail more : List Char} : PlainGap indent w r → IsPlainWord cs → cs.head? ≠ some '#' →
      PlainTail indent tail more → PlainTail indent (w ++ (cs ++ tail)) (r ++ (cs ++ more))

/-- One word is read, up to what ends it. -/
theorem plainText_word {indent : Int} {fuel : Nat} {acc blanks : List Char} {ended : Bool} {next : List Char × Bool × Place}
    (h : p.Goes cs q) (hcs : IsPlainWord cs) (hhash : cs.head? ≠ some '#') (hq : EndsPlainWord q)
    (hnext : plainSpaces q = next) :
    plainText false indent (fuel + 1) p acc blanks ended =
      if next.1.isEmpty || next.2.2.peek = '#' || Int.ofNat next.2.2.column < indent then
        (acc ++ blanks ++ cs, next.2.1, next.2.2)
      else plainText false indent fuel next.2.2 (acc ++ blanks ++ cs) next.1 next.2.1 := by
  have hrun : plainRun false p.rest = cs.length := by
    rw [h.rest]
    exact plainRun_word hcs.gap hcs.colon hq
  obtain ⟨c, ds, rfl⟩ := List.exists_cons_of_ne_nil hcs.ne
  have hpeek : p.peek ≠ '#' := by
    rw [h.peek]
    exact fun hc => hhash (congrArg some hc)
  have htake : p.rest.take (c :: ds).length = c :: ds := by
    rw [h.rest]
    exact List.take_left
  rw [plainText, if_neg hpeek, hrun]
  dsimp only
  have hlength : (c :: ds).length ≠ 0 := Nat.succ_ne_zero _
  rw [if_neg hlength, h.skip, htake, hnext, Bool.not_false, Bool.true_and]

/-- **Words are read one after the other until something ends the text.** -/
theorem plainText_of_tail {indent : Int} {fuel : Nat} {acc blanks : List Char} {before ended : Bool} {b : Place}
    (hw : PlainTail indent w r) (h : p.Goes (cs ++ w) q) (hcs : IsPlainWord cs) (hhash : cs.head? ≠ some '#')
    (hend : EndsPlain indent q ended b) (hp : indent ≤ p.column + 1) (hfuel : w.length < fuel) :
    plainText false indent fuel p acc blanks before = (acc ++ blanks ++ cs ++ r, ended, b) := by
  induction hw generalizing p cs fuel acc blanks before with
  | done =>
    obtain ⟨fuel, rfl⟩ := Nat.exists_eq_add_one_of_ne_zero (by omega : fuel ≠ 0)
    rw [List.append_nil] at h ⊢
    cases hend with
    | colon hr hc =>
      have hspan : q.span (fun c => c = ' ') = ([], q) := by
        refine (Goes.refl q).span (List.forall_mem_nil _) fun d ds hd => ?_
        rw [hr] at hd
        obtain rfl := (List.cons.inj hd).1
        rfl
      have hpeek : isBreak q.peek = false := by
        rw [Place.peek, hr]
        rfl
      have hspaces : plainSpaces q = ([], false, q) := by
        simp only [plainSpaces, hspan, hpeek, Bool.false_eq_true, if_false]
      rw [plainText_word h hcs hhash (.inr (.inr ⟨_, _, hr, hc⟩)) hspaces]
      rfl
    | line hline hless hstops =>
      obtain ⟨blanks', hspaces, -⟩ := plainSpaces_of_line hline hstops
      rw [plainText_word h hcs hhash (.inr (.inl ⟨'\n', _, hline.rest, rfl⟩)) hspaces]
      have hcolumn : Int.ofNat b.column < indent := by
        rw [column_of_line hline]
        exact hless
      simp only [decide_eq_true hcolumn, Bool.or_true, if_true]
  | @word w r ds tail more hg hds hdash _ ih =>
    obtain ⟨fuel, rfl⟩ := Nat.exists_eq_add_one_of_ne_zero (by omega : fuel ≠ 0)
    obtain ⟨m, hword, hrest⟩ := h.split
    obtain ⟨m', hgap, htail⟩ := hrest.split
    obtain ⟨d, ds', rfl⟩ := List.exists_cons_of_ne_nil hds.ne
    have hd : isGap d = false := hds.gap d List.mem_cons_self
    have hm' : AtWord m' := atWord_of_rest htail.rest hd
    obtain ⟨ended', hspaces⟩ := plainSpaces_of_gap hg hgap hm'
    obtain ⟨e, rest, rfl, he⟩ := hg.head
    have hcolumn : indent ≤ m'.column := by
      refine hg.column hgap ?_
      have hlong := (hword.column hcs.column).2
      have hpos := List.length_pos_of_ne_nil hcs.ne
      omega
    have hpeek : m'.peek ≠ '#' := by
      rw [htail.peek]
      exact fun hc => hdash (congrArg some hc)
    have hr : r.isEmpty = false := by
      cases hg <;> rfl
    have hless : ¬ Int.ofNat m'.column < indent := Int.not_lt.2 hcolumn
    have hfuel' : tail.length < fuel := by
      simp only [List.length_append, List.length_cons] at hfuel
      omega
    rw [plainText_word hword hcs hhash (.inr (.inl ⟨e, _, hgap.rest, he⟩)) hspaces]
    simp only [hr, hpeek, hless, Bool.or_self, decide_false, Bool.false_eq_true, if_false]
    rw [ih htail hds hdash (by omega) hfuel']
    simp

/-! ## What a text allows -/

section look

variable {f : Findings} {first last before behind prevSpace prevBreak : Bool}

theorem look_breaks : (look f first last before behind prevSpace prevBreak c).breaks = (f.breaks || isTextBreak c) := by
  unfold look
  split
  case isTrue => rfl
  case isFalse => split <;> rfl

theorem look_indicators : (look f first last before behind prevSpace prevBreak c).indicators =
    (f.indicators || isIndicator first before behind c) := by
  unfold look
  split
  case isTrue => rfl
  case isFalse => split <;> rfl

theorem look_leading : (look f first last before behind prevSpace prevBreak c).leading =
    (f.leading || (first && (c = ' ' || isTextBreak c))) := by
  unfold look
  by_cases hc : c = ' '
  · simp [hc]
  · by_cases hb : isTextBreak c = true <;> simp [hc, hb]

theorem look_trailingSpace : (look f first last before behind prevSpace prevBreak c).trailingSpace =
    (f.trailingSpace || (c = ' ' && last)) := by
  unfold look
  by_cases hc : c = ' '
  · simp [hc]
  · by_cases hb : isTextBreak c = true <;> simp [hc, hb]

end look

/-- Nothing has been found that keeps a text from standing without quotes. -/
structure Findings.Plain (f : Findings) : Prop where
  special : f.special = false
  breaks : f.breaks = false
  indicators : f.indicators = false
  leading : f.leading = false
  trailingSpace : f.trailingSpace = false

/-- A text that may stand without quotes, behind a character: neither blank nor line end is first or last, and
nothing in it means anything else. -/
def Unquotable : Bool → Char → List Char → Prop
  | _, _, [] => True
  | first, prev, c :: r => isSpecial c = false ∧ isTextBreak c = false ∧ (first = true ∨ r = [] → c ≠ ' ') ∧
      isIndicator first (isTextGap prev) (beginsGap r) c = false ∧ Unquotable false c r

theorem Findings.Plain.of_scan {f : Findings} {first prevSpace prevBreak : Bool} {prev : Char}
    (h : (scan f first (isTextGap prev) prevSpace prevBreak s).Plain) : f.Plain ∧ Unquotable first prev s := by
  induction s generalizing f first prev prevSpace prevBreak with
  | nil => exact ⟨h, trivial⟩
  | cons c r ih =>
    obtain ⟨⟨hspecial, hbreaks, hindicators, hleading, htrailing⟩, hmore⟩ := ih h
    rw [look_special, Bool.or_eq_false_iff] at hspecial
    rw [look_breaks, Bool.or_eq_false_iff] at hbreaks
    rw [look_indicators, Bool.or_eq_false_iff] at hindicators
    rw [look_leading, Bool.or_eq_false_iff] at hleading
    rw [look_trailingSpace, Bool.or_eq_false_iff] at htrailing
    refine ⟨⟨hspecial.1, hbreaks.1, hindicators.1, hleading.1, htrailing.1⟩, hspecial.2, hbreaks.2, ?_,
      hindicators.2, hmore⟩
    rintro (rfl | rfl) rfl
    · exact absurd hleading.2 (by decide)
    · exact absurd htrailing.2 (by decide)

theorem unquotable_of_plain (h : (analyse s).plain = true) (hs : s ≠ []) : Unquotable true ' ' s := by
  obtain ⟨c, cs, rfl⟩ := List.exists_cons_of_ne_nil hs
  have hscan : (scan {} true (isTextGap ' ') false false (c :: cs)).Plain := by
    simp only [analyse, List.isEmpty_cons, Bool.false_eq_true, if_false, Bool.not_eq_true',
      Bool.or_eq_false_iff] at h
    exact ⟨h.1.1.1.2.2, h.1.1.2, h.1.2, h.1.1.1.1.1.1.1, h.1.1.1.1.1.1.2⟩
  exact hscan.of_scan.2

/-! ## Stretches -/

/-- Blanks and words by turns. -/
inductive PlainTurns : List Stretch → Prop
  | nil : PlainTurns []
  | step {n : Nat} {cs : List Char} {runs : List Stretch} : 0 < n → IsPlainWord cs → cs.head? ≠ some '#' →
      PlainTurns runs → PlainTurns (.blanks n :: .text cs :: runs)

/-- Such turns, perhaps with a word in front. -/
inductive PlainArranged : List Stretch → Prop
  | gap {runs : List Stretch} : PlainTurns runs → PlainArranged runs
  | word {cs : List Char} {runs : List Stretch} : IsPlainWord cs → PlainTurns runs →
      PlainArranged (.text cs :: runs)

theorem isOneColumn_of_plain (hspecial : isSpecial c = false) (hbreak : isTextBreak c = false) : IsOneColumn c := by
  have hreturn : c ≠ '\r' := by rintro rfl; exact absurd hspecial (by decide)
  refine ⟨?_, fun hc => ?_⟩
  · simp only [isTextBreak, Bool.or_eq_false_iff, decide_eq_false_iff_not] at hbreak
    simp [isBreak, hreturn, hbreak]
  · obtain rfl : c = '\ufeff' := Char.ext (UInt32.toNat_inj.1 hc)
    exact absurd hspecial (by decide)

/-- The first word begins with the first character. -/
theorem head_of_text {runs : List Stretch} (h : runsOf s = .text cs :: runs) (hcs : cs ≠ []) :
    cs.head? = s.head? := by
  have hs := chars_runsOf s
  rw [h, List.flatMap_cons] at hs
  obtain ⟨c, ds, rfl⟩ := List.exists_cons_of_ne_nil hcs
  rw [← hs]
  rfl

theorem runsOf_ne_nil (hs : s ≠ []) : runsOf s ≠ [] := by
  intro h
  have hchars := chars_runsOf s
  rw [h] at hchars
  exact hs hchars.symm

/-- A colon has no gap behind it. -/
theorem ne_colon {first before : Bool} (h : isIndicator first before true c = false) : c ≠ ':' := by
  rintro rfl
  unfold isIndicator at h
  cases first <;> simp at h

/-- **The stretches of such a text are blanks and words by turns.** -/
theorem plainArranged_runsOf {first : Bool} {prev : Char} (h : Unquotable first prev s) : PlainArranged (runsOf s) := by
  induction s generalizing first prev with
  | nil => exact .gap .nil
  | cons c r ih =>
    obtain ⟨hspecial, hbreak, hends, hindicator, hmore⟩ := h
    have hruns := ih hmore
    have hne : r ≠ [] → runsOf r ≠ [] := runsOf_ne_nil
    rw [runsOf, List.foldr_cons, ← runsOf]
    unfold addChar
    by_cases hspace : c = ' '
    · have hr : r ≠ [] := fun hr => hends (.inr hr) hspace
      rw [if_pos hspace]
      generalize hruns' : runsOf r = runs at hruns hne
      cases hruns with
      | @word cs runs hword hturns =>
        refine .gap (.step Nat.one_pos hword (fun hhash => ?_) hturns)
        rw [head_of_text hruns' hword.ne] at hhash
        obtain ⟨d, ds, rfl⟩ := List.exists_cons_of_ne_nil hr
        obtain rfl : d = '#' := Option.some.inj hhash
        have hno := hmore.2.2.2.1
        rw [hspace] at hno
        simp [isIndicator, isTextGap, isGap] at hno
      | gap hturns =>
        cases hturns with
        | nil => exact absurd rfl (hne hr)
        | step hn hword hhash hturns => exact .gap (.step (Nat.succ_pos _) hword hhash hturns)
    · have hgap : isGap c = false := isGap_of_word hspecial hspace hbreak
      have hcolumn := isOneColumn_of_plain hspecial hbreak
      rw [if_neg hspace, if_neg (by rw [hbreak]; exact Bool.false_ne_true)]
      generalize hruns' : runsOf r = runs at hruns hne
      have hone : beginsGap r = true → IsPlainWord [c] := by
        intro hbegins
        rw [hbegins] at hindicator
        exact ⟨List.cons_ne_nil c [], by simpa using hgap, fun hc => ne_colon hindicator (Option.some.inj hc),
          by simpa using hcolumn⟩
      cases hruns with
      | @word cs runs hword hturns =>
        refine .word ⟨List.cons_ne_nil c cs, ?_, ?_, ?_⟩ hturns
        · intro d hd
          rcases List.mem_cons.1 hd with rfl | hd
          · exact hgap
          · exact hword.gap d hd
        · obtain ⟨d, ds, rfl⟩ := List.exists_cons_of_ne_nil hword.ne
          rw [List.getLast?_cons_cons]
          exact hword.colon
        · intro d hd
          rcases List.mem_cons.1 hd with rfl | hd
          · exact hcolumn
          · exact hword.column d hd
      | gap hturns =>
        cases hturns with
        | nil =>
          have hr : r = [] := by
            by_contra hr
            exact hne hr rfl
          exact .word (hone (by rw [hr]; rfl)) .nil
        | step hn hword hhash hturns =>
          obtain ⟨ds, rfl⟩ := first_of_blanks hruns'
          exact .word (hone rfl) (.step hn hword hhash hturns)

/-! ## What is written -/

theorem putUnquoted_blanks {p : Page} (split : Bool) (k : Nat) (hp : p.indent = some n) (hat : p.atIndent = false)
    (hn : 0 < n) :
    ∃ v, p.Writes v (putUnquoted split p (.blanks (k + 1))) ∧
      (putUnquoted split p (.blanks (k + 1))).indent = some n ∧
      (putUnquoted split p (.blanks (k + 1))).atIndent = false ∧
      ∀ indent : Int, indent ≤ n → PlainGap indent v (List.replicate (k + 1) ' ') := by
  obtain ⟨m, rfl⟩ := Nat.exists_eq_add_one_of_ne_zero (Nat.ne_of_gt hn)
  rw [putUnquoted]
  split
  case isTrue hfold =>
    obtain ⟨hw, hin, -⟩ := Page.fold_writes hp hat hn
    have hone : k + 1 = 1 := by
      simp only [Bool.and_eq_true, decide_eq_true_eq] at hfold
      exact hfold.1.1
    obtain rfl : k = 0 := by omega
    exact ⟨_, hw, hin.indent, hin.atIndent, fun indent hi => .fold m (by exact_mod_cast hi)⟩
  case isFalse => exact ⟨_, Page.writes_put p _, hp, hat, fun _ _ => .blanks k⟩

/-- **Blanks and words are written as something that is read as they are.** -/
theorem PlainTurns.written {runs : List Stretch} (h : PlainTurns runs) (hn : 0 < n) {p : Page} (split : Bool)
    (hp : p.indent = some n) (hat : p.atIndent = false) :
    ∃ w, p.Writes w (runs.foldl (putUnquoted split) p) ∧
      ∀ indent : Int, indent ≤ n → PlainTail indent w (runs.flatMap Stretch.chars) := by
  induction h generalizing p with
  | nil => exact ⟨[], .refl p, fun _ _ => .done⟩
  | @step k cs runs hk hword hhash _ ih =>
    obtain ⟨k, rfl⟩ := Nat.exists_eq_add_one_of_ne_zero (Nat.ne_of_gt hk)
    obtain ⟨v, hv, hqi, hqa, hgap⟩ := putUnquoted_blanks split k hp hat hn
    obtain ⟨w, hw, htail⟩ := ih (p := (putUnquoted split p (.blanks (k + 1))).put cs) hqi hqa
    refine ⟨v ++ (cs ++ w), hv.trans ((Page.writes_put _ cs).trans hw), fun indent hi => ?_⟩
    rw [List.flatMap_cons, List.flatMap_cons]
    exact .word (hgap indent hi) hword hhash (htail indent hi)

theorem PlainTail.head {indent : Int} (h : PlainTail indent w r) : ∀ c ∈ w.head?, isGap c = true := by
  cases h with
  | done => simp
  | word hgap =>
    obtain ⟨c, rest, rfl, hc⟩ := hgap.head
    intro d hd
    obtain rfl : c = d := Option.some.inj hd
    exact hc

/-- **A text that may stand without quotes is written word by word**: its first word, and what is read as the rest
wherever it ends and however its lines were folded. -/
theorem putPlain_written {p : Page} (hs : (analyse s).plain = true) (hne : s ≠ []) (hp : p.indent = some n)
    (hn : 0 < n) (split : Bool) :
    ∃ cs rest tail, s = cs ++ rest ∧ (∀ c ∈ rest.head?, c = ' ') ∧ IsPlainWord cs ∧
      (∀ c ∈ tail.head?, isGap c = true) ∧
      p.Writes ((if p.afterBlank then [] else [' ']) ++ (cs ++ tail)) (putPlain p s split) ∧
      ∀ (indent : Int) (a b : Place) (ended : Bool) (b' : Place), indent ≤ n → indent ≤ a.column + 1 →
        a.Goes (cs ++ tail) b → EndsPlain indent b ended b' →
        plainText false indent (a.rest.length + 1) a [] [] false = (s, ended, b') := by
  have hunquotable := unquotable_of_plain hs hne
  have hempty : s.isEmpty = false := List.isEmpty_eq_false_iff.2 hne
  have hchars := chars_runsOf s
  have harranged := plainArranged_runsOf hunquotable
  generalize hruns : runsOf s = runs at harranged hchars
  have hstart : ∃ q, p.Writes (if p.afterBlank then [] else [' ']) q ∧ q.indent = some n ∧ q.atIndent = false ∧
      putPlain p s split = runs.foldl (putUnquoted split) q := by
    refine ⟨{ (if p.afterBlank then p else p.put [' ']) with afterBlank := false, atIndent := false }, ?_, ?_, rfl, ?_⟩
    · cases p.afterBlank
      · exact ⟨rfl, rfl⟩
      · exact ⟨String.append_empty.symm, rfl⟩
    · cases p.afterBlank <;> exact hp
    · rw [putPlain, hempty, hruns]
      rfl
  obtain ⟨q, hq, hqi, hqa, hput⟩ := hstart
  have hfirst : ∃ cs runs', runs = .text cs :: runs' ∧ IsPlainWord cs ∧ PlainTurns runs' := by
    cases harranged with
    | word hword hturns => exact ⟨_, _, rfl, hword, hturns⟩
    | gap hturns =>
      cases hturns with
      | nil => exact absurd hruns (runsOf_ne_nil hne)
      | step hk =>
        obtain ⟨cs, rfl⟩ := first_of_blanks hruns
        exact absurd rfl (hunquotable.2.2.1 (.inl rfl))
  obtain ⟨cs, runs', rfl, hword, hturns⟩ := hfirst
  obtain ⟨w, hw, htail⟩ := hturns.written (p := q.put cs) hn split hqi hqa
  refine ⟨cs, runs'.flatMap Stretch.chars, w, hchars.symm, ?_, hword, (htail 0 (Int.natCast_nonneg n)).head, ?_,
    fun indent a b ended b' hindent hcolumn hgoes hend => ?_⟩
  · cases hturns with
    | nil => simp
    | @step k _ _ hk =>
      obtain ⟨k, rfl⟩ := Nat.exists_eq_add_one_of_ne_zero hk.ne'
      intro c hc
      exact (Option.some.inj hc).symm
  · rw [hput]
    exact hq.trans ((Page.writes_put q cs).trans hw)
  · have hhash : cs.head? ≠ some '#' := by
      intro hhash
      rw [head_of_text hruns hword.ne] at hhash
      obtain ⟨c, ds, rfl⟩ := List.exists_cons_of_ne_nil hne
      obtain rfl : c = '#' := Option.some.inj hhash
      exact absurd hunquotable.2.2.2.1 (by simp [isIndicator])
    have hfuel : w.length < a.rest.length + 1 := by
      rw [hgoes.length_rest, List.length_append]
      omega
    have hread : plainText false indent (a.rest.length + 1) a [] [] false =
        ([] ++ [] ++ cs ++ runs'.flatMap Stretch.chars, ended, b') :=
      plainText_of_tail (htail indent hindent) hgoes hword hhash hend hcolumn hfuel
    rw [hread, ← hchars]
    rfl

/-- **A text that may stand without quotes is written so that it is read as itself**, wherever it ends and
however its lines were folded. -/
theorem putPlain_kept {p : Page} (hs : (analyse s).plain = true) (hne : s ≠ []) (hp : p.indent = some n)
    (hn : 0 < n) (split : Bool) :
    ∃ w, p.Writes ((if p.afterBlank then [] else [' ']) ++ w) (putPlain p s split) ∧
      ∀ (indent : Int) (a b : Place) (ended : Bool) (b' : Place), indent ≤ n → indent ≤ a.column + 1 → a.Goes w b →
        EndsPlain indent b ended b' →
        plainText false indent (a.rest.length + 1) a [] [] false = (s, ended, b') := by
  obtain ⟨cs, rest, tail, -, -, -, -, hw, hread⟩ := putPlain_written hs hne hp hn split
  exact ⟨cs ++ tail, hw, hread⟩

end Stepwise.Document
