import Mathlib.Data.List.Chain
import Stepwise.Proofs.Quoting
import Stepwise.Recipe.Load
/-!
# Texts that are folded

Between single quotes a text is written stretch by stretch, and its lines may be broken at its blanks.
`single_quotes_keep_iff` says which texts survive this: those without the character U+0085, which is written
as it is and is read as a common line end.
-/

namespace Stepwise.Document

variable {s cs : List Char} {n : Nat}

/-! ## What a text allows -/

/-- Neither of two neighbours is a blank where the other ends a line. -/
def Apart (c d : Char) : Prop := ¬ (c = ' ' ∧ isTextBreak d = true) ∧ ¬ (isTextBreak c = true ∧ d = ' ')

/-- Nothing has been found that keeps a text from standing between single quotes. -/
structure Findings.Single (f : Findings) : Prop where
  special : f.special = false
  breakSpace : f.breakSpace = false
  spaceBreak : f.spaceBreak = false

section look

variable {f : Findings} {first last before behind prevSpace prevBreak : Bool} {c : Char}

theorem look_special : (look f first last before behind prevSpace prevBreak c).special = (f.special || isSpecial c) := by
  unfold look
  split
  case isTrue => rfl
  case isFalse => split <;> rfl

theorem look_breakSpace : (look f first last before behind prevSpace prevBreak c).breakSpace =
    (f.breakSpace || (c = ' ' && prevBreak)) := by
  unfold look
  by_cases hc : c = ' '
  · simp [hc]
  · by_cases hb : isTextBreak c = true <;> simp [hc, hb]

theorem look_spaceBreak : (look f first last before behind prevSpace prevBreak c).spaceBreak =
    (f.spaceBreak || (isTextBreak c && prevSpace)) := by
  have hblank : isTextBreak ' ' = false := by decide
  unfold look
  by_cases hc : c = ' '
  · simp [hc, hblank]
  · by_cases hb : isTextBreak c = true <;> simp [hc, hb]

end look

/-- What has been found stays found, and each character is looked at together with the one before it. -/
theorem Findings.Single.of_look {f : Findings} {first last before behind : Bool} {prev c : Char}
    (h : (look f first last before behind (prev = ' ') (isTextBreak prev) c).Single) :
    f.Single ∧ isSpecial c = false ∧ Apart prev c := by
  obtain ⟨hspecial, hbreak, hspace⟩ := h
  rw [look_special, Bool.or_eq_false_iff] at hspecial
  rw [look_breakSpace, Bool.or_eq_false_iff] at hbreak
  rw [look_spaceBreak, Bool.or_eq_false_iff] at hspace
  refine ⟨⟨hspecial.1, hbreak.1, hspace.1⟩, hspecial.2, fun h => ?_, fun h => ?_⟩
  · have := hspace.2
    rw [h.2, decide_eq_true h.1] at this
    cases this
  · have := hbreak.2
    rw [h.1, decide_eq_true h.2] at this
    cases this

theorem Findings.Single.of_scan {f : Findings} {first before : Bool} {prev : Char}
    (h : (scan f first before (prev = ' ') (isTextBreak prev) s).Single) :
    f.Single ∧ (∀ c ∈ s, isSpecial c = false) ∧ (prev :: s).IsChain Apart := by
  induction s generalizing f first before prev with
  | nil => exact ⟨h, List.forall_mem_nil _, .singleton prev⟩
  | cons c s ih =>
    obtain ⟨hlook, hspecial, hchain⟩ := ih h
    obtain ⟨hf, hc, hapart⟩ := hlook.of_look
    refine ⟨hf, fun d hd => ?_, .cons_cons hapart hchain⟩
    rcases List.mem_cons.1 hd with rfl | hd
    · exact hc
    · exact hspecial d hd

/-- Where single quotes are allowed, no character is special and no blank stands next to a line end. -/
theorem apart_of_single (h : (analyse s).single = true) :
    (∀ c ∈ s, isSpecial c = false) ∧ s.IsChain Apart := by
  cases s with
  | nil => exact ⟨List.forall_mem_nil _, .nil⟩
  | cons c cs =>
    have hscan : (scan {} true true (decide ('x' = ' ')) (isTextBreak 'x') (c :: cs)).Single := by
      simp only [analyse, List.isEmpty_cons, Bool.false_eq_true, if_false, Bool.not_eq_true',
        Bool.or_eq_false_iff] at h
      exact ⟨h.2.2, h.1, h.2.1⟩
    obtain ⟨-, hspecial, hchain⟩ := hscan.of_scan
    exact ⟨hspecial, (List.isChain_cons_cons.1 hchain).2⟩

/-! ## Stretches -/

namespace Stretch

/-- The characters of a stretch. -/
def chars : Stretch → List Char
  | blanks n => List.replicate n ' '
  | breaks cs => cs
  | text cs => cs

/-- What a stretch is read as that was written between single quotes. -/
def reread : Stretch → List Char
  | breaks cs => readBreaks cs
  | r => r.chars

/-- Some blanks, or some line ends. -/
def IsGap : Stretch → Prop
  | blanks n => 0 < n
  | breaks cs => cs ≠ [] ∧ ∀ c ∈ cs, isTextBreak c = true
  | text _ => False

end Stretch

/-- Some characters, none of which is a blank or a line end. -/
def IsWord (cs : List Char) : Prop := cs ≠ [] ∧ ∀ c ∈ cs, isGap c = false

/-- Gaps and words by turns, beginning with a gap. -/
inductive Turns : List Stretch → Prop
  | nil : Turns []
  | last {g : Stretch} : g.IsGap → Turns [g]
  | step {g : Stretch} {cs : List Char} {runs : List Stretch} : g.IsGap → IsWord cs → Turns runs →
      Turns (g :: .text cs :: runs)

theorem chars_addChar (c : Char) (runs : List Stretch) :
    (addChar c runs).flatMap Stretch.chars = c :: runs.flatMap Stretch.chars := by
  unfold addChar
  split
  case isTrue h =>
    subst h
    split <;> rfl
  case isFalse =>
    split <;> split <;> rfl

/-- The stretches of a text make up the text. -/
theorem chars_runsOf (s : List Char) : (runsOf s).flatMap Stretch.chars = s := by
  induction s with
  | nil => rfl
  | cons c s ih => rw [runsOf, List.foldr_cons, chars_addChar, ← runsOf, ih]

theorem isGap_of_word {c : Char} (hspecial : isSpecial c = false) (hspace : c ≠ ' ')
    (hbreak : isTextBreak c = false) : isGap c = false := by
  have htab : c ≠ '\t' := by rintro rfl; exact absurd hspecial (by decide)
  have hreturn : c ≠ '\r' := by rintro rfl; exact absurd hspecial (by decide)
  have hend : c.toNat ≠ 0 := by
    intro h
    have : c = '\x00' := Char.ext (UInt32.toNat_inj.1 h)
    subst this
    exact absurd hspecial (by decide)
  simp only [isTextBreak, Bool.or_eq_false_iff, decide_eq_false_iff_not] at hbreak
  simp [isGap, isBreakOrEnd, isEnd, isBreak, htab, hreturn, hend, hspace, hbreak]

/-- The stretches that single quotes allow are gaps and words by turns; a word may be first. -/
inductive Arranged : List Stretch → Prop
  | gap {runs : List Stretch} : Turns runs → Arranged runs
  | word {cs : List Char} {runs : List Stretch} : IsWord cs → Turns runs → Arranged (.text cs :: runs)

theorem IsWord.cons {c : Char} (hc : isGap c = false) (h : IsWord cs) : IsWord (c :: cs) := by
  refine ⟨List.cons_ne_nil c cs, fun d hd => ?_⟩
  rcases List.mem_cons.1 hd with rfl | hd
  · exact hc
  · exact h.2 d hd

theorem Arranged.addWord {c : Char} {runs : List Stretch} (h : Arranged runs) (hc : isGap c = false)
    (hspace : c ≠ ' ') (hbreak : isTextBreak c = false) : Arranged (addChar c runs) := by
  have hone : IsWord [c] := ⟨List.cons_ne_nil c [], by simpa using hc⟩
  unfold addChar
  simp only [hspace, hbreak, Bool.false_eq_true, if_false]
  cases h with
  | word hw ht => exact .word (hw.cons hc) ht
  | gap ht =>
    cases ht with
    | nil => exact .word hone .nil
    | @last g hg =>
      cases g with
      | text => exact hg.elim
      | blanks | breaks => exact .word hone (.last hg)
    | @step g _ _ hg hw ht =>
      cases g with
      | text => exact hg.elim
      | blanks | breaks => exact .word hone (.step hg hw ht)

/-- A blank in front makes a gap, or makes the gap that is there longer. -/
theorem Arranged.addBlank {runs : List Stretch} (h : Arranged runs)
    (hno : ∀ bs more, runs ≠ .breaks bs :: more) : Arranged (addChar ' ' runs) := by
  have hone : (Stretch.blanks 1).IsGap := Nat.one_pos
  unfold addChar
  simp only [if_true]
  cases h with
  | word hw ht => exact .gap (.step hone hw ht)
  | gap ht =>
    cases ht with
    | nil => exact .gap (.last hone)
    | @last g hg =>
      cases g with
      | text => exact hg.elim
      | breaks bs => exact absurd rfl (hno bs _)
      | blanks n => exact .gap (.last (Nat.succ_pos n))
    | @step g _ _ hg hw ht =>
      cases g with
      | text => exact hg.elim
      | breaks bs => exact absurd rfl (hno bs _)
      | blanks n => exact .gap (.step (Nat.succ_pos n) hw ht)

/-- So does a line end. -/
theorem Arranged.addBreak {c : Char} {runs : List Stretch} (h : Arranged runs) (hspace : c ≠ ' ')
    (hbreak : isTextBreak c = true) (hno : ∀ n more, runs ≠ .blanks n :: more) :
    Arranged (addChar c runs) := by
  have hone : (Stretch.breaks [c]).IsGap := ⟨List.cons_ne_nil c [], by simpa using hbreak⟩
  have hmore : ∀ {bs}, (Stretch.breaks bs).IsGap → (Stretch.breaks (c :: bs)).IsGap := fun hg =>
    ⟨List.cons_ne_nil c _, by simpa [hbreak] using hg.2⟩
  unfold addChar
  simp only [hspace, hbreak, if_false, if_true]
  cases h with
  | word hw ht => exact .gap (.step hone hw ht)
  | gap ht =>
    cases ht with
    | nil => exact .gap (.last hone)
    | @last g hg =>
      cases g with
      | text => exact hg.elim
      | blanks n => exact absurd rfl (hno n _)
      | breaks bs => exact .gap (.last (hmore hg))
    | @step g _ _ hg hw ht =>
      cases g with
      | text => exact hg.elim
      | blanks n => exact absurd rfl (hno n _)
      | breaks bs => exact .gap (.step (hmore hg) hw ht)

/-- The first stretch tells what the first character is. -/
theorem first_of_breaks {bs : List Char} {more : List Stretch} (h : runsOf s = .breaks bs :: more) :
    ∃ c cs, s = c :: cs ∧ isTextBreak c = true := by
  cases s with
  | nil => cases h
  | cons c cs =>
    rw [runsOf, List.foldr_cons] at h
    unfold addChar at h
    split at h
    case isTrue => split at h <;> cases h
    case isFalse =>
      split at h
      case isTrue hc => exact ⟨c, cs, rfl, hc⟩
      case isFalse => split at h <;> cases h

theorem first_of_blanks {more : List Stretch} (h : runsOf s = .blanks n :: more) : ∃ cs, s = ' ' :: cs := by
  cases s with
  | nil => cases h
  | cons c cs =>
    rw [runsOf, List.foldr_cons] at h
    unfold addChar at h
    split at h
    case isTrue hc => exact ⟨cs, by rw [hc]⟩
    case isFalse => split at h <;> split at h <;> cases h

theorem arranged_runsOf (hspecial : ∀ c ∈ s, isSpecial c = false) (hchain : s.IsChain Apart) :
    Arranged (runsOf s) := by
  induction s with
  | nil => exact .gap .nil
  | cons c s ih =>
    have hmore := ih (fun d hd => hspecial d (List.mem_cons_of_mem _ hd)) hchain.tail
    have hnext : ∀ {d ds}, s = d :: ds → Apart c d := by
      rintro d ds rfl
      exact (List.isChain_cons_cons.1 hchain).1
    rw [runsOf, List.foldr_cons, ← runsOf]
    by_cases hspace : c = ' '
    · subst hspace
      refine hmore.addBlank fun bs more hr => ?_
      obtain ⟨d, ds, hs, hd⟩ := first_of_breaks hr
      exact (hnext hs).1 ⟨rfl, hd⟩
    · cases hbreak : isTextBreak c with
      | false =>
        exact hmore.addWord (isGap_of_word (hspecial c List.mem_cons_self) hspace hbreak) hspace hbreak
      | true =>
        refine hmore.addBreak hspace hbreak fun n more hr => ?_
        obtain ⟨ds, hs⟩ := first_of_blanks hr
        exact (hnext hs).2 ⟨hbreak, rfl⟩

/-! ## The page -/

namespace Page

variable {p q r : Page} {w v : List Char}

/-- The second page is the first with a text written behind it. -/
structure Writes (p : Page) (w : List Char) (q : Page) : Prop where
  out : q.out = p.out ++ String.ofList w
  indent : q.indent = p.indent

theorem Writes.refl (p : Page) : p.Writes [] p := ⟨String.append_empty.symm, rfl⟩

theorem Writes.trans (h : p.Writes w q) (h' : q.Writes v r) : p.Writes (w ++ v) r :=
  ⟨by rw [h'.out, h.out, String.ofList_append, String.append_assoc], h'.indent.trans h.indent⟩

theorem writes_put (p : Page) (w : List Char) : p.Writes w (p.put w) := ⟨rfl, rfl⟩

theorem writes_lineBreak (p : Page) (c : Char) : p.Writes [c] (p.lineBreak c) :=
  ⟨String.push_eq_append c, rfl⟩

/-- An indicator is written behind a blank if it needs one. -/
theorem writes_indicator (p : Page) (s : String) (needBlank blankAfter keepsIndent : Bool) :
    p.Writes ((if p.afterBlank || !needBlank then [] else [' ']) ++ s.toList)
      (p.indicator s needBlank blankAfter keepsIndent) := by
  refine ⟨?_, rfl⟩
  unfold indicator
  cases p.afterBlank || !needBlank <;> simp

/-- A line has been begun, up to the indentation or beyond. -/
structure OnLine (n : Nat) (p : Page) : Prop where
  indent : p.indent = some n
  column : p.atIndent = false ∨ n ≤ p.column

/-- Something stands on the line behind the indentation. -/
structure Inside (n : Nat) (p : Page) : Prop where
  indent : p.indent = some n
  column : p.atIndent = false ∨ n < p.column

theorem OnLine.put (h : p.OnLine n) (hw : w ≠ []) : (p.put w).Inside n := by
  refine ⟨h.indent, h.column.imp_right fun hc => ?_⟩
  change n < p.column + w.length
  have := List.length_pos_of_ne_nil hw
  omega

theorem Inside.onLine (h : p.Inside n) : p.OnLine n := ⟨h.indent, h.column.imp_right Nat.le_of_lt⟩

/-- At the start of a line the indentation is written. -/
theorem toIndent_of_start (hindent : p.indent = some n) (hn : 0 < n) (hcolumn : p.column = 0)
    (hat : p.atIndent = true) : p.Writes (List.replicate n ' ') p.toIndent ∧ p.toIndent.OnLine n := by
  have hto : p.toIndent = { p with
      out := p.out ++ String.ofList (List.replicate n ' '), column := n, afterBlank := true } := by
    have hsame : 0 ≠ n := by omega
    simp [toIndent, hindent, hcolumn, hat, hn, hsame]
  rw [hto]
  exact ⟨⟨rfl, rfl⟩, hindent, .inr (Nat.le_refl n)⟩

/-- Within a line a new one is begun. -/
theorem toIndent_of_inside (h : p.Inside n) (hn : 0 < n) :
    p.Writes ('\n' :: List.replicate n ' ') p.toIndent ∧ p.toIndent.OnLine n := by
  have hbreak : (!p.atIndent || p.column > n || (p.column = n && !p.afterBlank)) = true := by
    rcases h.column with hat | hc
    · rw [hat]; rfl
    · rw [decide_eq_true hc, Bool.or_true, Bool.true_or]
  have hto : p.toIndent = (p.lineBreak '\n').toIndent := by
    have hsame : 0 ≠ n := by omega
    simp [toIndent, h.indent, hbreak, lineBreak, hn, hsame]
  obtain ⟨hw, hline⟩ := toIndent_of_start (p := p.lineBreak '\n') h.indent hn rfl rfl
  rw [hto]
  exact ⟨(writes_lineBreak p '\n').trans hw, hline⟩

/-- A text is being written, on a line that reaches the indentation. -/
structure InText (n : Nat) (p : Page) : Prop where
  indent : p.indent = some n
  atIndent : p.atIndent = false
  column : n ≤ p.column

theorem InText.put (h : p.InText n) (cs : List Char) : (p.put cs).InText n :=
  ⟨h.indent, h.atIndent, Nat.le_add_right_of_le h.column⟩

/-- Going on with a text on a new line. -/
theorem fold_writes (hindent : p.indent = some n) (hat : p.atIndent = false) (hn : 0 < n) :
    p.Writes ('\n' :: List.replicate n ' ') p.fold ∧ p.fold.InText n ∧ p.fold.column = n := by
  obtain ⟨hwrites, -⟩ := toIndent_of_inside ⟨hindent, .inl hat⟩ hn
  have hcolumn : p.toIndent.column = n := by
    simp [toIndent, hindent, hat, lineBreak, hn]
  exact ⟨⟨hwrites.out, hwrites.indent⟩, ⟨hwrites.indent.trans hindent, rfl, Nat.le_of_eq hcolumn.symm⟩, hcolumn⟩

theorem foldl_lineBreak (p : Page) (cs : List Char) (hcs : cs ≠ []) :
    p.Writes cs (cs.foldl lineBreak p) ∧ (cs.foldl lineBreak p).column = 0 ∧
      (cs.foldl lineBreak p).atIndent = true := by
  induction cs generalizing p with
  | nil => exact absurd rfl hcs
  | cons c cs ih =>
    cases cs with
    | nil => exact ⟨writes_lineBreak p c, rfl, rfl⟩
    | cons d ds =>
      obtain ⟨hw, hstart⟩ := ih (p.lineBreak c) (List.cons_ne_nil d ds)
      exact ⟨(writes_lineBreak p c).trans hw, hstart⟩

/-- Line ends are written as they are, behind a common one if the first of them is one. -/
theorem putBreaks_writes (h : p.indent = some n) (hn : 0 < n) (hw : w ≠ []) :
    p.Writes ((if w.head? = some '\n' then ['\n'] else []) ++ w ++ List.replicate n ' ') (putBreaks p w) ∧
      (putBreaks p w).OnLine n := by
  obtain ⟨q, hq, hfirst⟩ : ∃ q, putBreaks p w = (w.foldl lineBreak q).toIndent ∧
      p.Writes (if w.head? = some '\n' then ['\n'] else []) q := by
    unfold putBreaks
    split
    case isTrue => exact ⟨_, rfl, writes_lineBreak p '\n'⟩
    case isFalse => exact ⟨_, rfl, .refl p⟩
  obtain ⟨hbreaks, hcolumn, hat⟩ := foldl_lineBreak q w hw
  have hindent : (w.foldl lineBreak q).indent = some n := by rw [hbreaks.indent, hfirst.indent, h]
  obtain ⟨hblanks, hline⟩ := toIndent_of_start hindent hn hcolumn hat
  rw [hq]
  exact ⟨(hfirst.trans hbreaks).trans hblanks, hline⟩

end Page

/-! ## What is written and what is read -/

open Document.Page

/-- **A gap is written as something that is read as it.** -/
theorem putQuoted_gap {g : Stretch} {p : Page} (split : Bool) (count i : Nat) (hg : g.IsGap)
    (hp : p.Inside n) (hn : 0 < n) :
    ∃ w q, putQuoted split count (p, i) g = (q, i + 1) ∧ p.Writes w q ∧ q.OnLine n ∧ Gap w g.reread := by
  obtain ⟨m, rfl⟩ := Nat.exists_eq_add_one_of_ne_zero (Nat.ne_of_gt hn)
  cases g with
  | text => exact hg.elim
  | breaks cs =>
    obtain ⟨hw, hline⟩ := putBreaks_writes hp.indent hn hg.1
    exact ⟨_, _, rfl, hw, hline, .breaks m hg.1 hg.2⟩
  | blanks k =>
    obtain ⟨k, rfl⟩ := Nat.exists_eq_add_one_of_ne_zero (Nat.ne_of_gt hg)
    simp only [putQuoted]
    split
    case isTrue hfold =>
      obtain ⟨hw, hline⟩ := toIndent_of_inside hp hn
      have hone : k + 1 = 1 := by
        simp only [Bool.and_eq_true, decide_eq_true_eq] at hfold
        exact hfold.1.1.1.1
      obtain rfl : k = 0 := by omega
      exact ⟨_, _, rfl, hw, hline, .fold m⟩
    case isFalse =>
      have hne : List.replicate (k + 1) ' ' ≠ [] := List.cons_ne_nil _ _
      exact ⟨_, _, rfl, writes_put p _, (hp.onLine.put hne).onLine, .blanks k⟩

theorem doubled_ne_nil (h : cs ≠ []) : doubled cs ≠ [] := by
  obtain ⟨c, ds, rfl⟩ := List.exists_cons_of_ne_nil h
  obtain ⟨tail, htail⟩ := doubled_cons_head c ds
  rw [htail]
  exact List.cons_ne_nil c tail

/-- **Gaps and words are written as something that is read as they are.** -/
theorem Turns.written {runs : List Stretch} (h : Turns runs) (hn : 0 < n) {p : Page} (split : Bool)
    (count i : Nat) (hp : p.Inside n) :
    ∃ w, p.Writes w (runs.foldl (putQuoted split count) (p, i)).1 ∧
      SingleTail (w ++ ['\'']) (runs.flatMap Stretch.reread) := by
  induction h generalizing p i with
  | nil => exact ⟨[], .refl p, .close⟩
  | @last g hg =>
    obtain ⟨w, q, hq, hw, -, hgap⟩ := putQuoted_gap split count i hg hp hn
    refine ⟨w, ?_, ?_⟩
    · rw [List.foldl_cons, hq]
      exact hw
    · have htail := SingleTail.gap hgap (List.forall_mem_nil _) (fun _ => rfl) .close
      rw [List.flatMap_cons]
      simpa [doubled] using htail
  | @step g cs runs hg hword _ ih =>
    obtain ⟨w, q, hq, hw, hline, hgap⟩ := putQuoted_gap split count i hg hp hn
    obtain ⟨v, hv, htail⟩ := ih (i + 1 + 1) (hline.put (doubled_ne_nil hword.1))
    refine ⟨w ++ doubled cs ++ v, ?_, ?_⟩
    · rw [List.foldl_cons, hq]
      exact (hw.trans (writes_put q _)).trans hv
    · have hwhole := SingleTail.gap hgap hword.2 (fun h => absurd h hword.1) htail
      rw [List.append_assoc, List.flatMap_cons, List.flatMap_cons]
      simpa [Stretch.reread, Stretch.chars] using hwhole

/-- What a text is read as that was written between single quotes. -/
def reread (s : List Char) : List Char := (runsOf s).flatMap Stretch.reread

theorem Arranged.written {runs : List Stretch} (h : Arranged runs) (hn : 0 < n) {p : Page} (split : Bool)
    (count : Nat) (hp : p.Inside n) :
    ∃ cs w r, p.Writes (doubled cs ++ w) (runs.foldl (putQuoted split count) (p, 0)).1 ∧
      (∀ c ∈ cs, isGap c = false) ∧ SingleTail (w ++ ['\'']) r ∧ runs.flatMap Stretch.reread = cs ++ r := by
  cases h with
  | gap ht =>
    obtain ⟨w, hw, htail⟩ := ht.written hn split count 0 hp
    exact ⟨[], w, _, hw, List.forall_mem_nil _, htail, rfl⟩
  | @word cs runs hword ht =>
    obtain ⟨w, hw, htail⟩ := ht.written hn split count 1 (hp.onLine.put (doubled_ne_nil hword.1))
    exact ⟨cs, w, _, (writes_put p _).trans hw, hword.2, htail, rfl⟩

/-- **A text is written between single quotes as something that is read as `reread` says.** -/
theorem putSingle_written {p : Page} (hs : (analyse s).single = true) (hp : p.indent = some n) (hn : 0 < n)
    (split : Bool) :
    ∃ w, p.Writes ((if p.afterBlank then [] else [' ']) ++ '\'' :: w) (putSingle p s split) ∧
      ∀ a b : Place, a.Goes ('\'' :: w) b → b.peek ≠ '\'' →
        quotedScalar false a = .ok (.scalar (String.ofList (reread s)) .single, b) := by
  obtain ⟨hspecial, hchain⟩ := apart_of_single hs
  have hopen : p.Writes ((if p.afterBlank then [] else [' ']) ++ ['\'']) (p.indicator "'" true false false) := by
    simpa using writes_indicator p "'" true false false
  have hinside : (p.indicator "'" true false false).Inside n := ⟨hp, .inl (Bool.and_false _)⟩
  obtain ⟨cs, w, r, hw, hcs, htail, hread⟩ := (arranged_runsOf hspecial hchain).written hn split
    (runsOf s).length hinside
  have hclose : ∀ q : Page, q.Writes ['\''] (q.indicator "'" false false false) := fun q => by
    simpa using writes_indicator q "'" false false false
  refine ⟨doubled cs ++ (w ++ ['\'']), ?_, fun a b hab hb => ?_⟩
  · have hwhole := (hopen.trans hw).trans (hclose _)
    simpa [putSingle] using hwhole
  · rw [reread, hread]
    exact quotedScalar_single hab hcs htail hb

/-! ## Which texts are kept -/

open Document.Place (readBreak)

theorem readBreak_ne (c : Char) : (readBreak c).toNat ≠ 0x85 := by
  unfold readBreak
  split
  case isTrue => decide
  case isFalse h => exact fun hc => h (.inr hc)

theorem readBreak_of_ne {c : Char} (h : c.toNat ≠ 0x85) : readBreak c = c := by
  unfold readBreak
  split
  case isTrue hc => exact (hc.resolve_right h).symm
  case isFalse => rfl

theorem readBreaks_of_ne (h : ∀ c ∈ cs, c.toNat ≠ 0x85) : readBreaks cs = cs := by
  have hmap : cs.map readBreak = cs :=
    (List.map_congr_left fun c hc => readBreak_of_ne (h c hc)).trans (List.map_id cs)
  cases cs with
  | nil => rfl
  | cons c rest =>
    have hc := h c List.mem_cons_self
    rw [readBreaks, if_pos, hmap]
    by_cases hn : c = '\n'
    · exact .inl hn
    · exact .inr (by rwa [readBreak_of_ne hc])

/-- No line end is read as the character U+0085. -/
theorem ne_of_mem_readBreaks {c : Char} (h : c ∈ readBreaks cs) : c.toNat ≠ 0x85 := by
  have hmap : ∀ ds : List Char, c ∈ ds.map readBreak → c.toNat ≠ 0x85 := by
    intro ds hc
    obtain ⟨d, -, rfl⟩ := List.mem_map.1 hc
    exact readBreak_ne d
  cases cs with
  | nil => cases h
  | cons d rest =>
    rw [readBreaks] at h
    split at h
    case isTrue => exact hmap _ h
    case isFalse =>
      split at h
      case isTrue =>
        rw [List.mem_singleton.1 h]
        decide
      case isFalse => exact hmap _ h

theorem reread_of_ne {g : Stretch} (h : ∀ c ∈ g.chars, c.toNat ≠ 0x85) : g.reread = g.chars := by
  cases g with
  | breaks cs => exact readBreaks_of_ne h
  | blanks | text => rfl

theorem IsWord.ne {c : Char} (h : IsWord cs) (hc : c ∈ cs) : c.toNat ≠ 0x85 := by
  intro hn
  have := h.2 c hc
  simp [isGap, isBreakOrEnd, isBreak, hn] at this

theorem Stretch.IsGap.ne {g : Stretch} {c : Char} (h : g.IsGap) (hc : c ∈ g.reread) : c.toNat ≠ 0x85 := by
  cases g with
  | text => exact h.elim
  | blanks n =>
    rw [List.eq_of_mem_replicate hc]
    decide
  | breaks cs => exact ne_of_mem_readBreaks hc

theorem Turns.ne {runs : List Stretch} {c : Char} (h : Turns runs) (hc : c ∈ runs.flatMap Stretch.reread) :
    c.toNat ≠ 0x85 := by
  induction h with
  | nil => cases hc
  | last hg =>
    rw [List.flatMap_singleton] at hc
    exact hg.ne hc
  | step hg hw _ ih =>
    rw [List.flatMap_cons, List.flatMap_cons, List.mem_append, List.mem_append] at hc
    rcases hc with hc | hc | hc
    · exact hg.ne hc
    · exact hw.ne hc
    · exact ih hc

theorem Arranged.ne {runs : List Stretch} {c : Char} (h : Arranged runs)
    (hc : c ∈ runs.flatMap Stretch.reread) : c.toNat ≠ 0x85 := by
  cases h with
  | gap ht => exact ht.ne hc
  | word hw ht =>
    rcases List.mem_append.1 hc with hc | hc
    · exact hw.ne hc
    · exact ht.ne hc

/-- **Single quotes keep exactly the texts without the character U+0085.** -/
theorem reread_eq_iff (hs : (analyse s).single = true) : reread s = s ↔ ∀ c ∈ s, c.toNat ≠ 0x85 := by
  obtain ⟨hspecial, hchain⟩ := apart_of_single hs
  constructor
  · intro h c hc
    rw [← h] at hc
    exact (arranged_runsOf hspecial hchain).ne hc
  · intro h
    have hread : ∀ g ∈ runsOf s, g.reread = g.chars := by
      refine fun g hg => reread_of_ne fun c hc => h c ?_
      rw [← chars_runsOf s]
      exact List.mem_flatMap.2 ⟨g, hg, hc⟩
    rw [reread, List.flatMap_congr hread, chars_runsOf]

/-- A text that single quotes allow is written so that it is read as itself exactly if U+0085 is not in it. -/
theorem single_quotes_keep_iff {p : Page} (hs : (analyse s).single = true) (hp : p.indent = some n) (hn : 0 < n)
    (split : Bool) :
    ∃ w, p.Writes ((if p.afterBlank then [] else [' ']) ++ w) (putSingle p s split) ∧
      ((∀ a b : Place, a.Goes w b → b.peek ≠ '\'' →
        quotedScalar false a = .ok (.scalar (String.ofList s) .single, b)) ↔ ∀ c ∈ s, c.toNat ≠ 0x85) := by
  obtain ⟨w, hw, hread⟩ := putSingle_written hs hp hn split
  refine ⟨'\'' :: w, hw, ⟨fun h => ?_, fun h a b hab hb => ?_⟩⟩
  · obtain ⟨a, b, hab, hend⟩ := Place.exists_text ('\'' :: w)
    have hb : b.peek ≠ '\'' := by
      rw [Place.peek, hend]
      decide
    exact (reread_eq_iff hs).1 (text_inj ((hread a b hab hb).symm.trans (h a b hab hb)))
  · rw [hread a b hab hb, (reread_eq_iff hs).2 h]

end Stepwise.Document

namespace Stepwise.Recipe

/-- The text that the recipe of a text is written as. -/
def rewrite (text : String) : Run String := do (← load (.str text) .null).toText

/-- A name with the character U+0085 is written as it is and is read back with a blank in its place, so the
second text is another one than the first. -/
theorem rewrite_not_stable : ∃ t u,
    ((do let t ← rewrite "jinx_name: \"a\\Nb\"\n"; return (t, ← rewrite t) : Run (String × String)).act {}).result? =
      some (t, u) ∧ u ≠ t :=
  ⟨"jinx_name: 'a\u0085  b'\ndescription: ''\ninputs: []\nsteps: []\n",
    "jinx_name: a b\ndescription: ''\ninputs: []\nsteps: []\n", by decide +kernel, by decide⟩

end Stepwise.Recipe
