import Stepwise.Document.Layout
import Stepwise.Proofs.Places
/-!
# Texts between quotes

A text between single quotes is written in stretches: words, whose quotes are doubled, and gaps of blanks,
of one blank that has become a line end, or of line ends. `quotedScalar_single` says what is read where such
a text stands, wherever its lines were folded.
-/

namespace Stepwise.Document

open Document.Place

variable {p q : Place}

/-! ## Gaps -/

/-- A line end that texts hold: the characters between lines but the carriage return. -/
theorem isBreak_of_isTextBreak {c : Char} (h : isTextBreak c = true) : isBreak c = true ∧ c ≠ '\r' := by
  simp only [isTextBreak, Bool.or_eq_true, decide_eq_true_eq] at h
  rcases h with ((rfl | h) | h) | h
  · exact ⟨by decide, by decide⟩
  all_goals
    refine ⟨by simp [isBreak, h], ?_⟩
    rintro rfl
    exact absurd h (by decide)

/-- What line ends between quotes are read as. The first of them ends the line before it, and counts only
if it is not the common one or others follow. -/
def readBreaks : List Char → List Char
  | [] => []
  | c :: rest =>
    if c = '\n' ∨ readBreak c ≠ '\n' then (c :: rest).map readBreak
    else if rest.isEmpty then [' '] else rest.map readBreak

/-- What may stand between two words within quotes, and what it is read as. -/
inductive Gap : List Char → List Char → Prop
  | blanks (n : Nat) : Gap (List.replicate (n + 1) ' ') (List.replicate (n + 1) ' ')
  | fold (n : Nat) : Gap ('\n' :: List.replicate (n + 1) ' ') [' ']
  | breaks {cs : List Char} (n : Nat) : cs ≠ [] → (∀ c ∈ cs, isTextBreak c = true) →
      Gap ((if cs.head? = some '\n' then ['\n'] else []) ++ cs ++ List.replicate (n + 1) ' ') (readBreaks cs)

/-- Behind a gap stands something else. -/
def AtWord (p : Place) : Prop := p.rest ≠ [] ∧ p.Stops fun c => c = ' ' || c = '\t' || isBreak c

theorem atWord_of_rest {c : Char} {cs : List Char} (h : p.rest = c :: cs) (hc : isGap c = false) : AtWord p := by
  refine ⟨by rw [h]; exact List.cons_ne_nil c cs, fun d ds hd => ?_⟩
  rw [h] at hd
  obtain rfl := (List.cons.inj hd).1
  simp only [isGap, isBreakOrEnd, Bool.or_eq_false_iff] at hc
  simp only [hc, Bool.or_self]

theorem AtWord.stops_blank (h : AtWord p) : p.Stops fun c => c = ' ' || c = '\t' := by
  intro c cs hr
  have hc := h.2 c cs hr
  simp only [Bool.or_eq_false_iff] at hc
  simp only [hc.1, Bool.or_self]

theorem AtWord.not_isBreak (h : AtWord p) : isBreak p.peek = false := by
  obtain ⟨c, cs, hr⟩ := List.exists_cons_of_ne_nil h.1
  have hc := h.2 c cs hr
  simp only [Bool.or_eq_false_iff] at hc
  rw [peek, hr]
  exact hc.2

theorem forall_blank (n : Nat) : ∀ c ∈ List.replicate n ' ', (c = ' ' || c = '\t') = true := by
  intro c hc
  rw [List.eq_of_mem_replicate hc]
  rfl

/-- Line ends and the indentation behind them are read as the line ends that they are. -/
theorem quotedBreaks_of_goes {cs : List Char} {n fuel : Nat} (acc : List Char)
    (h : p.Goes (cs ++ List.replicate (n + 1) ' ') q) (hcs : ∀ c ∈ cs, isTextBreak c = true)
    (hq : AtWord q) (hfuel : cs.length < fuel) :
    quotedBreaks fuel p acc = .ok (acc ++ cs.map readBreak, q) := by
  induction cs generalizing p fuel acc with
  | nil =>
    obtain ⟨fuel, rfl⟩ := Nat.exists_eq_add_one_of_ne_zero (by omega : fuel ≠ 0)
    have hrest : p.rest = ' ' :: (List.replicate n ' ' ++ q.rest) := h.rest
    have hmarker : p.atMarker = false := atMarker_of_head hrest (by decide) (by decide)
    have hskip : p.skipWhile (fun c => c = ' ' || c = '\t') = q :=
      h.skipWhile (forall_blank _) hq.stops_blank
    simp only [quotedBreaks, hmarker, hskip, hq.not_isBreak, Bool.false_eq_true, if_false, List.map_nil,
      List.append_nil]
  | cons c cs ih =>
    obtain ⟨fuel, rfl⟩ := Nat.exists_eq_add_one_of_ne_zero (by omega : fuel ≠ 0)
    obtain ⟨hbreak, hreturn⟩ := isBreak_of_isTextBreak (hcs c List.mem_cons_self)
    have hrest : p.rest = c :: (cs ++ List.replicate (n + 1) ' ' ++ q.rest) := h.rest
    have hne : ∀ d, isBreak d = false → c ≠ d := by
      rintro d hd rfl
      rw [hbreak] at hd
      cases hd
    have hmarker : p.atMarker = false := atMarker_of_head hrest (hne '-' (by decide)) (hne '.' (by decide))
    have hskip : p.skipWhile (fun c => c = ' ' || c = '\t') = p := by
      refine (Goes.refl p).skipWhile (fun _ h => nomatch h) fun d ds hd => ?_
      rw [hrest] at hd
      obtain rfl := (List.cons.inj hd).1
      simp only [hne ' ' (by decide), hne '\t' (by decide), decide_false, Bool.or_self]
    have hpeek : p.peek = c := h.peek
    have hstep : p.Goes [c] p.step := .step hrest
    simp only [quotedBreaks, hmarker, hskip, hpeek, hbreak, hstep.lineBreak hbreak hreturn, Bool.false_eq_true,
      if_false, if_true]
    rw [ih (acc ++ [readBreak c]) h.cons (fun d hd => hcs d (List.mem_cons_of_mem _ hd))
      (by rw [List.length_cons] at hfuel; omega), List.map_cons, List.append_assoc, List.singleton_append]

theorem readBreak_newline : readBreak '\n' = '\n' := rfl

/-- Blanks between words are read as they are. -/
theorem quotedSpaces_of_blanks {n : Nat} (h : p.Goes (List.replicate n ' ') q) (hq : AtWord q) :
    quotedSpaces p = .ok (List.replicate n ' ', q) := by
  have hempty : q.rest.isEmpty = false := by
    rw [List.isEmpty_eq_false_iff]
    exact hq.1
  simp only [quotedSpaces, h.span (forall_blank n) hq.stops_blank, hempty, hq.not_isBreak, Bool.false_eq_true,
    if_false]

/-- The end of a line between words, with what is behind it. -/
theorem quotedSpaces_of_breaks {c : Char} {cs : List Char} {n : Nat}
    (h : p.Goes (c :: cs ++ List.replicate (n + 1) ' ') q) (hc : isTextBreak c = true)
    (hcs : ∀ d ∈ cs, isTextBreak d = true) (hq : AtWord q) :
    quotedSpaces p = .ok (if readBreak c ≠ '\n' then readBreak c :: cs.map readBreak
      else if cs.isEmpty then [' '] else cs.map readBreak, q) := by
  obtain ⟨hbreak, hreturn⟩ := isBreak_of_isTextBreak hc
  have hrest : p.rest = c :: (cs ++ List.replicate (n + 1) ' ' ++ q.rest) := h.rest
  have hspan : p.span (fun c => c = ' ' || c = '\t') = ([], p) := by
    refine (Goes.refl p).span (fun _ h => nomatch h) fun d ds hd => ?_
    rw [hrest] at hd
    obtain rfl := (List.cons.inj hd).1
    have hne : ∀ e, isBreak e = false → c ≠ e := by
      rintro e he rfl
      rw [hbreak] at he
      cases he
    simp only [hne ' ' (by decide), hne '\t' (by decide), decide_false, Bool.or_self]
  have hempty : p.rest.isEmpty = false := by rw [hrest]; rfl
  have hpeek : p.peek = c := h.peek
  have hstep : p.Goes [c] p.step := .step hrest
  have hmore : p.step.Goes (cs ++ List.replicate (n + 1) ' ') q := h.cons
  have hfuel : cs.length < p.step.rest.length + 1 := by
    rw [hmore.length_rest, List.length_append]
    omega
  have hread := quotedBreaks_of_goes [] hmore hcs hq hfuel
  rw [List.nil_append] at hread
  simp only [quotedSpaces, hspan, hempty, hpeek, hbreak, hstep.lineBreak hbreak hreturn, Bool.false_eq_true,
    if_false, if_true]
  rw [hread]
  change (if [readBreak c] ≠ ['\n'] then Except.ok ([readBreak c] ++ cs.map readBreak, q)
    else if (cs.map readBreak).isEmpty then Except.ok ([' '], q) else Except.ok (cs.map readBreak, q)) = _
  by_cases hn : readBreak c = '\n'
  · rw [hn, if_neg (not_not_intro rfl), if_neg (not_not_intro rfl), List.isEmpty_map]
    split <;> rfl
  · rw [if_pos fun he => hn (List.cons.inj he).1, if_pos hn]
    rfl

/-- **A gap is read as what it stands for.** -/
theorem quotedSpaces_of_gap {w r : List Char} (hg : Gap w r) (h : p.Goes w q) (hq : AtWord q) :
    quotedSpaces p = .ok (r, q) := by
  cases hg with
  | blanks n => exact quotedSpaces_of_blanks h hq
  | fold n =>
    have h' : p.Goes ('\n' :: [] ++ List.replicate (n + 1) ' ') q := h
    rw [quotedSpaces_of_breaks h' (by decide) (fun _ h => nomatch h) hq, if_neg (not_not_intro readBreak_newline)]
    rfl
  | @breaks cs n hne hcs =>
    obtain ⟨c, rest, rfl⟩ := List.exists_cons_of_ne_nil hne
    have hc := hcs c List.mem_cons_self
    have hrest : ∀ d ∈ rest, isTextBreak d = true := fun d hd => hcs d (List.mem_cons_of_mem _ hd)
    by_cases hn : c = '\n'
    · subst hn
      have h' : p.Goes ('\n' :: ('\n' :: rest) ++ List.replicate (n + 1) ' ') q := h
      rw [quotedSpaces_of_breaks h' (by decide) hcs hq, if_neg (not_not_intro readBreak_newline), readBreaks,
        if_pos (Or.inl rfl)]
      rfl
    · have hhead : (c :: rest).head? ≠ some '\n' := fun he => hn (Option.some.inj he)
      rw [if_neg hhead, List.nil_append] at h
      rw [quotedSpaces_of_breaks h hc hrest hq, readBreaks]
      by_cases hb : readBreak c = '\n'
      · have hor : ¬ (c = '\n' ∨ readBreak c ≠ '\n') := fun ho => ho.elim hn fun h => h hb
        rw [if_neg (not_not_intro hb), if_neg hor]
      · rw [if_pos hb, if_pos (Or.inr hb)]
        rfl

/-! ## Words between single quotes -/

theorem doubled_cons (c : Char) (cs : List Char) :
    doubled (c :: cs) = (if c = '\'' then ['\'', '\''] else [c]) ++ doubled cs := List.flatMap_cons

theorem doubled_cons_head (c : Char) (cs : List Char) : ∃ tail, doubled (c :: cs) = c :: tail := by
  rw [doubled_cons]
  split
  case isTrue h => exact ⟨'\'' :: doubled cs, by rw [h]; rfl⟩
  case isFalse => exact ⟨doubled cs, rfl⟩

/-- A word ends here: a gap follows, or the closing quote. -/
def EndsWord (p : Place) : Prop :=
  p.rest ≠ [] ∧ (isGap p.peek = true ∨ p.peek = '\'' ∧ p.peekAt 1 ≠ '\'')

/-- Characters that a word between quotes can hold as they are. -/
def isPlainInQuotes (c : Char) : Bool := !(c = '\'' || c = '"' || c = '\\' || isGap c)

theorem EndsWord.stops (h : EndsWord q) : q.Stops isPlainInQuotes := by
  intro c cs hr
  have hpeek : q.peek = c := by rw [peek, hr]; rfl
  rcases h.2 with hgap | ⟨hquote, -⟩
  · rw [hpeek] at hgap
    simp only [isPlainInQuotes, hgap, Bool.or_true, Bool.not_true]
  · rw [hpeek] at hquote
    subst hquote
    decide

/-- Where a word ends, no pair of quotes stands, and nothing else that words are written with. -/
theorem EndsWord.peek (h : EndsWord q) :
    ¬ (q.peek = '\'' ∧ q.peekAt 1 = '\'') ∧ q.peek ≠ '"' ∧ q.peek ≠ '\\' := by
  rcases h.2 with hgap | ⟨hquote, hnext⟩
  · have hne : ∀ c, isGap c = false → q.peek ≠ c := by
      rintro c hc rfl
      rw [hgap] at hc
      cases hc
    exact ⟨fun h => hne _ (by decide) h.1, hne _ (by decide), hne _ (by decide)⟩
  · rw [hquote]
    exact ⟨fun h => hnext h.2, by decide, by decide⟩

theorem doubled_append (a b : List Char) : doubled (a ++ b) = doubled a ++ doubled b := List.flatMap_append

theorem doubled_of_plain {cs : List Char} (h : ∀ c ∈ cs, isPlainInQuotes c = true) : doubled cs = cs := by
  induction cs with
  | nil => rfl
  | cons c cs ih =>
    have hc : c ≠ '\'' := by
      rintro rfl
      exact absurd (h '\'' List.mem_cons_self) (by decide)
    rw [doubled_cons, if_neg hc, ih fun d hd => h d (List.mem_cons_of_mem _ hd)]
    rfl

/-- **A word between single quotes is read as it is.** -/
theorem quotedText_of_doubled {cs : List Char} {fuel : Nat} (acc : List Char) (h : p.Goes (doubled cs) q)
    (hcs : ∀ c ∈ cs, isGap c = false) (hq : EndsWord q) (hfuel : cs.length < fuel) :
    quotedText false fuel p acc = .ok (acc ++ cs, q) := by
  induction fuel generalizing p cs acc with
  | zero => omega
  | succ fuel ih =>
    obtain ⟨run, rest, rfl, hrun, hstop⟩ := exists_run isPlainInQuotes cs
    rw [doubled_append, doubled_of_plain hrun] at h
    obtain ⟨m, hm, hrest⟩ := h.split
    rcases hstop with rfl | ⟨c, r, rfl, hc⟩
    · obtain rfl : m = q := hrest.unique (.refl m) |>.symm
      have hspan : p.span (fun c => !(c = '\'' || c = '"' || c = '\\' || isGap c)) = (run, m) :=
        hm.span hrun hq.stops
      have hempty : m.rest.isEmpty = false := List.isEmpty_eq_false_iff.2 hq.1
      obtain ⟨hpair, hdouble, hback⟩ := hq.peek
      rw [quotedText, hspan]
      simp [hempty, hpair, hdouble, hback]
    · have hgap : isGap c = false := hcs c (List.mem_append_right _ List.mem_cons_self)
      have hspan : p.span (fun c => !(c = '\'' || c = '"' || c = '\\' || isGap c)) = (run, m) := by
        refine hm.span hrun fun d ds hd => ?_
        obtain ⟨tail, htail⟩ := doubled_cons_head c r
        rw [hrest.rest, htail] at hd
        obtain rfl := (List.cons.inj hd).1
        exact hc
      have hr : ∀ d ∈ r, isGap d = false := fun d hd =>
        hcs d (List.mem_append_right _ (List.mem_cons_of_mem _ hd))
      rw [List.length_append, List.length_cons] at hfuel
      rw [doubled_cons] at hrest
      rw [quotedText, hspan]
      by_cases hquote : c = '\''
      · subst hquote
        obtain ⟨m', hpair, hrest'⟩ := hrest.split
        have hempty : m.rest.isEmpty = false := by rw [hpair.rest]; rfl
        have hpeek : m.peek = '\'' ∧ m.peekAt 1 = '\'' := by
          rw [Place.peek, Place.peekAt, hpair.rest]
          exact ⟨rfl, rfl⟩
        have hskip : m.skip 2 = m' := hpair.skip
        have hread := ih (acc ++ run ++ ['\'']) hrest' hr (by omega)
        simp only [hempty, hpeek.1, hpeek.2, hskip, hread]
        simp
      · rw [if_neg hquote] at hrest
        have hempty : m.rest.isEmpty = false := by rw [hrest.rest]; rfl
        have hpeek : m.peek = c := hrest.peek
        have hother : c = '"' ∨ c = '\\' := by
          simp only [isPlainInQuotes, hquote, hgap, decide_false, Bool.false_or, Bool.or_false,
            Bool.not_eq_false', Bool.or_eq_true, decide_eq_true_eq] at hc
          exact hc
        have hread := ih (acc ++ run ++ [c]) hrest.cons hr (by omega)
        simp only [hempty, hpeek, hread]
        rcases hother with rfl | rfl <;> simp

/-! ## The whole text -/

/-- What a scalar token says determines its text. -/
theorem text_inj {s t : List Char} {style : Style}
    (h : (.ok (.scalar (String.ofList s) style, q) : Scan (Token × Place)) =
      .ok (.scalar (String.ofList t) style, q)) : s = t := by
  injection h with h
  injection h with h
  injection h with h
  exact String.ofList_injective h

/-- What stands behind the first word between single quotes, up to the closing quote, and what it is read
as. Two gaps have a word between them. -/
inductive SingleTail : List Char → List Char → Prop
  | close : SingleTail ['\''] []
  | gap {w r cs tail more : List Char} : Gap w r → (∀ c ∈ cs, isGap c = false) →
      (cs = [] → tail = ['\'']) → SingleTail tail more →
      SingleTail (w ++ doubled cs ++ tail) (r ++ cs ++ more)

/-- A gap begins with a character that no word holds. -/
theorem Gap.head {w r : List Char} (h : Gap w r) : ∃ c rest, w = c :: rest ∧ isGap c = true := by
  cases h with
  | blanks n => exact ⟨' ', List.replicate n ' ', rfl, rfl⟩
  | fold n => exact ⟨'\n', List.replicate (n + 1) ' ', rfl, rfl⟩
  | @breaks cs n hne hcs =>
    obtain ⟨c, rest, rfl⟩ := List.exists_cons_of_ne_nil hne
    split
    case isTrue => exact ⟨'\n', c :: rest ++ List.replicate (n + 1) ' ', rfl, rfl⟩
    case isFalse =>
      refine ⟨c, rest ++ List.replicate (n + 1) ' ', rfl, ?_⟩
      have hbreak := (isBreak_of_isTextBreak (hcs c List.mem_cons_self)).1
      simp only [isGap, isBreakOrEnd, hbreak, Bool.or_true]

/-- A word ends where a tail begins. -/
theorem SingleTail.endsWord {w r : List Char} (hw : SingleTail w r) (h : p.Goes w q) (hq : q.peek ≠ '\'') :
    EndsWord p := by
  cases hw with
  | close =>
    refine ⟨by rw [h.rest]; exact List.cons_ne_nil _ _, .inr ⟨h.peek, ?_⟩⟩
    rw [Place.peekAt, h.rest]
    exact hq
  | gap hg _ _ _ =>
    obtain ⟨c, rest, rfl, hc⟩ := hg.head
    refine ⟨by rw [h.rest]; exact List.cons_ne_nil _ _, .inl ?_⟩
    rw [Place.peek, h.rest]
    exact hc

/-- Behind a gap stands the word or the closing quote. -/
theorem atWord_of_doubled {cs tail : List Char} (h : p.Goes (doubled cs ++ tail) q)
    (hcs : ∀ c ∈ cs, isGap c = false) (htail : cs = [] → tail = ['\'']) : AtWord p := by
  cases cs with
  | nil =>
    rw [htail rfl] at h
    have hrest : p.rest = '\'' :: q.rest := h.rest
    exact atWord_of_rest hrest (by decide)
  | cons c cs =>
    obtain ⟨rest, hrest⟩ := doubled_cons_head c cs
    rw [hrest] at h
    have hword : p.rest = c :: (rest ++ tail ++ q.rest) := h.rest
    exact atWord_of_rest hword (hcs c List.mem_cons_self)

theorem length_le_doubled (cs : List Char) : cs.length ≤ (doubled cs).length := by
  induction cs with
  | nil => exact Nat.le_refl 0
  | cons c cs ih =>
    rw [doubled_cons, List.length_append, List.length_cons]
    split
    case isTrue =>
      change cs.length + 1 ≤ 2 + _
      omega
    case isFalse =>
      change cs.length + 1 ≤ 1 + _
      omega

/-- **Gaps and words are read up to the closing quote.** -/
theorem quotedRest_of_tail {w r : List Char} {fuel : Nat} (acc : List Char) (hw : SingleTail w r)
    (h : p.Goes w q) (hq : q.peek ≠ '\'') (hfuel : w.length < fuel) :
    quotedRest false fuel p acc = .ok (acc ++ r, q) := by
  induction hw generalizing p fuel acc with
  | close =>
    obtain ⟨fuel, rfl⟩ := Nat.exists_eq_add_one_of_ne_zero (by omega : fuel ≠ 0)
    have hpeek : p.peek = '\'' := h.peek
    have hstep : p.step = q := h.eq_step.symm
    simp only [quotedRest, hpeek, hstep, Bool.false_eq_true, if_false, if_true, List.append_nil]
  | @gap w r cs tail more hg hcs htail hmore ih =>
    obtain ⟨fuel, rfl⟩ := Nat.exists_eq_add_one_of_ne_zero (by omega : fuel ≠ 0)
    rw [List.append_assoc] at h
    obtain ⟨m, hgap, hrest⟩ := h.split
    obtain ⟨m', hword, htail'⟩ := hrest.split
    obtain ⟨c, rest, rfl, hc⟩ := hg.head
    have hpeek : p.peek ≠ '\'' := by
      rw [hgap.peek]
      rintro rfl
      cases hc
    have hspaces := quotedSpaces_of_gap hg hgap (atWord_of_doubled hrest hcs htail)
    have hbound : cs.length < m.rest.length + 2 := by
      have := length_le_doubled cs
      rw [hword.length_rest]
      omega
    have htext := quotedText_of_doubled [] hword hcs (hmore.endsWord htail' hq) hbound
    have hless : tail.length < fuel := by
      simp only [List.length_append, List.length_cons] at hfuel
      omega
    rw [List.nil_append] at htext
    rw [quotedRest, if_neg Bool.false_ne_true, if_neg hpeek, hspaces]
    change (quotedText false (m.rest.length + 2) m []).bind _ = _
    rw [htext]
    change quotedRest false fuel m' (acc ++ r ++ cs) = _
    rw [ih (acc ++ r ++ cs) htail' hless, List.append_assoc, List.append_assoc, List.append_assoc]

/-- **What stands between single quotes is read as its words and gaps.** -/
theorem quotedScalar_single {cs w r : List Char} (h : p.Goes ('\'' :: (doubled cs ++ w)) q)
    (hcs : ∀ c ∈ cs, isGap c = false) (hw : SingleTail w r) (hq : q.peek ≠ '\'') :
    quotedScalar false p = .ok (.scalar (String.ofList (cs ++ r)) .single, q) := by
  obtain ⟨m, hword, htail⟩ := h.cons.split
  have hbound : cs.length < p.step.rest.length + 2 := by
    have := length_le_doubled cs
    rw [hword.length_rest]
    omega
  have htext := quotedText_of_doubled [] hword hcs (hw.endsWord htail hq) hbound
  have hless : w.length < p.step.rest.length + 2 := by
    rw [hword.length_rest, htail.length_rest]
    omega
  rw [List.nil_append] at htext
  rw [quotedScalar]
  change (quotedText false (p.step.rest.length + 2) p.step []).bind _ = _
  rw [htext]
  change (quotedRest false (p.step.rest.length + 2) m cs).bind _ = _
  rw [quotedRest_of_tail cs hw htail hq hless]
  rfl

end Stepwise.Document
