import Mathlib.Tactic.Ring
import Stepwise.Proofs.Folding
/-!
# Texts with escapes

Between double quotes every text can be written: what is not printable is escaped, and a line is folded
behind a backslash. `double_quotes_keep_iff` says when the text is read back as it was: always, but for a
fold at an escape in front of a blank, where the indentation is as deep as a line is wide.
-/

namespace Stepwise.Document

open Document.Place

variable {p q : Place} {n : Nat} {s cs w r : List Char} {c : Char}

/-! ## Escapes by number -/

theorem hexDigit?_upperHex {d : Nat} (h : d < 16) :
    hexDigit? (if d < 10 then Char.ofNat (48 + d) else Char.ofNat (55 + d)) = some d := by
  have hall : ∀ d : Fin 16,
      hexDigit? (if d.val < 10 then Char.ofNat (48 + d.val) else Char.ofNat (55 + d.val)) = some d.val := by decide
  exact hall ⟨d, h⟩

theorem upperHex_succ (width n : Nat) : upperHex (width + 1) n =
    (if n / 16 ^ width % 16 < 10 then Char.ofNat (48 + n / 16 ^ width % 16)
      else Char.ofNat (55 + n / 16 ^ width % 16)) :: upperHex width n := by
  rw [upperHex, List.range_succ, List.reverse_append]
  rfl

theorem length_upperHex (width n : Nat) : (upperHex width n).length = width := by
  simp [upperHex]

theorem foldl_upperHex (width n acc : Nat) :
    (upperHex width n).foldl addHexDigit (some acc) = some (acc * 16 ^ width + n % 16 ^ width) := by
  induction width generalizing acc with
  | zero => simp [upperHex, Nat.mod_one]
  | succ width ih =>
    have hdigit := hexDigit?_upperHex (Nat.mod_lt (n / 16 ^ width) (by decide : 0 < 16))
    have hstep : addHexDigit (some acc) (if n / 16 ^ width % 16 < 10 then Char.ofNat (48 + n / 16 ^ width % 16)
        else Char.ofNat (55 + n / 16 ^ width % 16)) = some (acc * 16 + n / 16 ^ width % 16) := by
      unfold addHexDigit
      rw [hdigit]
    rw [upperHex_succ, List.foldl_cons, hstep, ih, Nat.pow_succ, Nat.mod_mul]
    ring_nf

/-- The digits of a number are read as the number. -/
theorem hexNumber?_upperHex {width n : Nat} (h : n < 16 ^ width) : hexNumber? (upperHex width n) = some n := by
  rw [hexNumber?, foldl_upperHex, Nat.mod_eq_of_lt h, Nat.zero_mul, Nat.zero_add]

/-! ## Escapes -/

theorem toNat_range (c : Char) : c.toNat < 0xd800 ∨ 0xdfff < c.toNat ∧ c.toNat < 0x110000 := c.valid

/-- An escape is a letter that stands for the character, or its number in as many digits as a letter says. -/
theorem escapeChar_cases (c : Char) :
    (∃ l, escapeChar c = ['\\', l] ∧ escapeOf? l = some c) ∨
      ∃ l width, escapeChar c = '\\' :: l :: upperHex width c.toNat ∧ escapeOf? l = none ∧
        escapeWidth? l = some width ∧ c.toNat < 16 ^ width := by
  have hvalid := toNat_range c
  unfold escapeChar
  split
  case h_16 =>
    right
    simp only
    split
    case isTrue h => exact ⟨'x', 2, rfl, rfl, rfl, by omega⟩
    case isFalse =>
      split
      case isTrue h => exact ⟨'u', 4, rfl, rfl, rfl, by omega⟩
      case isFalse => exact ⟨'U', 8, rfl, rfl, rfl, by omega⟩
  all_goals exact .inl ⟨_, rfl, rfl⟩

/-- Reading a text goes on behind a character that stands for itself. -/
theorem quotedText_step {double : Bool} {fuel : Nat} {acc : List Char} (h : p.Goes [c] q)
    (hc : isPlainInQuotes c = true) : quotedText double fuel p acc = quotedText double fuel q (acc ++ [c]) := by
  have hrest : p.rest = c :: q.rest := h.rest
  have hspan : p.span (fun c => !(c = '\'' || c = '"' || c = '\\' || isGap c)) =
      (c :: (q.span fun c => !(c = '\'' || c = '"' || c = '\\' || isGap c)).1,
        (q.span fun c => !(c = '\'' || c = '"' || c = '\\' || isGap c)).2) := by
    have hc' : (!(c = '\'' || c = '"' || c = '\\' || isGap c)) = true := hc
    simp only [Place.span, hrest, List.takeWhile_cons, hc', if_true, List.length_cons, skip, ← h.eq_step]
  cases fuel with
  | zero => rfl
  | succ fuel =>
    rw [quotedText, quotedText, hspan]
    simp only [List.append_assoc, List.singleton_append]

/-- At a backslash the run of characters that stand for themselves is empty. -/
theorem span_backslash (h : p.rest = '\\' :: cs) :
    p.span (fun c => !(c = '\'' || c = '"' || c = '\\' || isGap c)) = ([], p) := by
  rw [Place.span, h, List.takeWhile_cons]
  rfl

theorem quotedText_letter {l : Char} {fuel : Nat} {acc : List Char} (h : p.Goes ['\\', l] q)
    (hl : escapeOf? l = some c) : quotedText true (fuel + 1) p acc = quotedText true fuel q (acc ++ [c]) := by
  have hrest : p.rest = '\\' :: l :: q.rest := h.rest
  have hstep : p.step.rest = l :: q.rest := rest_step hrest
  have hq : p.step.step = q := h.cons.eq_step.symm
  have hpeek : p.peek = '\\' := h.peek
  have hpeek' : p.step.peek = l := h.cons.peek
  rw [quotedText, span_backslash hrest]
  simp [hrest, hpeek, hpeek', hstep, hl, hq]

/-- **An escape is read as the character that it stands for.** -/
theorem quotedText_escape {fuel : Nat} {acc : List Char} (h : p.Goes (escapeChar c) q) :
    quotedText true (fuel + 1) p acc = quotedText true fuel q (acc ++ [c]) := by
  rcases escapeChar_cases c with ⟨l, he, hl⟩ | ⟨l, width, he, hnot, hwidth, hc⟩
  · rw [he] at h
    exact quotedText_letter h hl
  · rw [he] at h
    have hrest : p.rest = '\\' :: l :: (upperHex width c.toNat ++ q.rest) := h.rest
    have hstep : p.step.rest = l :: (upperHex width c.toNat ++ q.rest) := rest_step hrest
    have hdigits : p.step.step.rest.take width = upperHex width c.toNat := by
      rw [rest_step hstep, List.take_left' (length_upperHex width c.toNat)]
    have hq : p.step.step.skip width = q := by
      have := h.cons.cons.skip
      rwa [length_upperHex] at this
    have hpeek : p.peek = '\\' := h.peek
    have hpeek' : p.step.peek = l := h.cons.peek
    have hlength := length_upperHex width c.toNat
    have hvalid := toNat_range c
    have hnumber := hexNumber?_upperHex hc
    have hbig : ¬ c.toNat ≥ 0x110000 := by omega
    have hpair : ¬ (0xd800 ≤ c.toNat ∧ c.toNat < 0xe000) := by omega
    rw [quotedText, span_backslash hrest]
    simp [hrest, hpeek, hpeek', hstep, hnot, hwidth, hdigits, hlength, hnumber, hbig, hpair, hq]

/-! ## What stands between double quotes -/

/-- Something that is no blank, no tab and no line end comes first. -/
def BeginsWord (w : List Char) : Prop := ∃ c rest, w = c :: rest ∧ isGap c = false

/-- What stands behind an opening double quote, up to the closing one, and what it is read as. -/
inductive DoubleTail : List Char → List Char → Prop
  | close : DoubleTail ['"'] []
  | char {c : Char} {w r : List Char} : isPlainInQuotes c = true → DoubleTail w r → DoubleTail (c :: w) (c :: r)
  | quote {w r : List Char} : DoubleTail w r → DoubleTail ('\'' :: w) ('\'' :: r)
  | blanks {w r : List Char} (n : Nat) : BeginsWord w → DoubleTail w r →
      DoubleTail (List.replicate (n + 1) ' ' ++ w) (List.replicate (n + 1) ' ' ++ r)
  | escape {w r : List Char} (c : Char) : DoubleTail w r → DoubleTail (escapeChar c ++ w) (c :: r)
  | escapedBlank {w r : List Char} : DoubleTail w r → DoubleTail ('\\' :: ' ' :: w) (' ' :: r)
  /-- A line that ends with a backslash goes on behind the next indentation. -/
  | fold {w r : List Char} (n : Nat) : BeginsWord w → DoubleTail w r →
      DoubleTail ('\\' :: '\n' :: (List.replicate (n + 1) ' ' ++ w)) r
  /-- A line that ends without one is followed by a blank. -/
  | wrap {w r : List Char} (n : Nat) : BeginsWord w → DoubleTail w r →
      DoubleTail ('\n' :: (List.replicate (n + 1) ' ' ++ w)) (' ' :: r)

theorem BeginsWord.atWord (h : BeginsWord w) (hp : p.rest = w ++ cs) : AtWord p := by
  obtain ⟨c, rest, rfl, hc⟩ := h
  exact atWord_of_rest hp hc

/-- Reads text and then what is behind it. -/
def textAndRest (fuel more : Nat) (p : Place) (acc text : List Char) : Scan (List Char × Place) := do
  let (t, p) ← quotedText true fuel p text
  quotedRest true more p (acc ++ t)

/-- Text ends at a gap or a closing quote. -/
theorem quotedText_stop {fuel : Nat} {acc : List Char} (hrest : p.rest = c :: cs)
    (hc : isGap c = true ∨ c = '"') : quotedText true (fuel + 1) p acc = .ok (acc, p) := by
  have hspan : p.span (fun c => !(c = '\'' || c = '"' || c = '\\' || isGap c)) = ([], p) := by
    have hno : (!(c = '\'' || c = '"' || c = '\\' || isGap c)) = false := by
      rcases hc with h | h <;> simp [h]
    rw [Place.span, hrest, List.takeWhile_cons, hno]
    rfl
  have hpeek : p.peek = c := by rw [Place.peek, hrest]; rfl
  have hquote : c ≠ '\'' ∧ c ≠ '\\' := by
    rcases hc with h | rfl
    · constructor <;> (rintro rfl; cases h)
    · decide
  rw [quotedText, hspan]
  simp [hrest, hpeek, hquote]

/-- A single quote stands for itself. -/
theorem quotedText_quote {fuel : Nat} {acc : List Char} (h : p.Goes ['\''] q) :
    quotedText true (fuel + 1) p acc = quotedText true fuel q (acc ++ ['\'']) := by
  have hrest : p.rest = '\'' :: q.rest := h.rest
  have hspan : p.span (fun c => !(c = '\'' || c = '"' || c = '\\' || isGap c)) = ([], p) := by
    rw [Place.span, hrest, List.takeWhile_cons]
    rfl
  have hpeek : p.peek = '\'' := h.peek
  rw [quotedText, hspan]
  simp [hrest, hpeek, h.eq_step]

/-- Behind a backslash a line goes on with the next one. -/
theorem quotedText_fold {fuel : Nat} {acc : List Char} (h : p.Goes ('\\' :: '\n' :: List.replicate (n + 1) ' ') q)
    (hq : AtWord q) : quotedText true (fuel + 1) p acc = quotedText true fuel q acc := by
  have hrest : p.rest = '\\' :: '\n' :: (List.replicate (n + 1) ' ' ++ q.rest) := h.rest
  have hstep : p.step.rest = '\n' :: (List.replicate (n + 1) ' ' ++ q.rest) := rest_step hrest
  have hpeek : p.peek = '\\' := h.peek
  have hpeek' : p.step.peek = '\n' := h.cons.peek
  have hline : p.step.lineBreak = (['\n'], p.step.step) := (Goes.step hstep).lineBreak (by decide) (by decide)
  have hbreaks : quotedBreaks (p.step.step.rest.length + 1) p.step.step [] = .ok ([], q) := by
    have hgoes : p.step.step.Goes ([] ++ List.replicate (n + 1) ' ') q := h.cons.cons
    exact quotedBreaks_of_goes [] hgoes (List.forall_mem_nil _) hq (Nat.succ_pos _)
  rw [quotedText, span_backslash hrest]
  have hnone : escapeOf? '\n' = none := rfl
  have hwidth : escapeWidth? '\n' = none := rfl
  have hbreak : isBreak '\n' = true := rfl
  simp only [hrest, hpeek, hpeek', hstep, hnone, hwidth, hbreak, hline, hbreaks]
  simp
  change quotedText true fuel q (acc ++ []) = _
  rw [List.append_nil]

/-- At a gap the text has ended, and another one begins behind the gap. -/
theorem textAndRest_gap {fuel more : Nat} {acc text : List Char} (hg : Gap w r) (h : p.Goes w q) (hq : AtWord q) :
    textAndRest (fuel + 1) (more + 1) p acc text =
      textAndRest (q.rest.length + 2) more q (acc ++ text ++ r) [] := by
  obtain ⟨c, rest, rfl, hc⟩ := hg.head
  have hpeek : p.peek ≠ '"' := by
    rw [h.peek]
    rintro rfl
    cases hc
  rw [textAndRest, quotedText_stop h.rest (.inl hc)]
  change quotedRest true (more + 1) p (acc ++ text) = _
  rw [quotedRest, if_pos rfl, if_neg hpeek, quotedSpaces_of_gap hg h hq]
  rfl

theorem escapeChar_head (c : Char) : ∃ l e, escapeChar c = '\\' :: l :: e := by
  rcases escapeChar_cases c with ⟨l, he, -⟩ | ⟨l, width, he, -⟩
  · exact ⟨l, [], he⟩
  · exact ⟨l, _, he⟩

/-- Blanks, a line end, or something else comes first. -/
theorem DoubleTail.head (h : DoubleTail w r) :
    (∃ n w' r', w = List.replicate (n + 1) ' ' ++ w' ∧ r = List.replicate (n + 1) ' ' ++ r' ∧ BeginsWord w' ∧
      DoubleTail w' r') ∨ w.head? = some '\n' ∨ BeginsWord w := by
  cases h with
  | close => exact .inr (.inr ⟨'"', [], rfl, by decide⟩)
  | char hc =>
    simp only [isPlainInQuotes, Bool.not_eq_true', Bool.or_eq_false_iff] at hc
    exact .inr (.inr ⟨_, _, rfl, hc.2⟩)
  | quote => exact .inr (.inr ⟨'\'', _, rfl, by decide⟩)
  | blanks n hw h => exact .inl ⟨n, _, _, rfl, rfl, hw, h⟩
  | escape c =>
    obtain ⟨l, e, he⟩ := escapeChar_head c
    rw [he]
    exact .inr (.inr ⟨'\\', _, rfl, by decide⟩)
  | escapedBlank | fold => exact .inr (.inr ⟨'\\', _, rfl, by decide⟩)
  | wrap => exact .inr (.inl rfl)

/-- A blank makes the blanks behind it more. -/
theorem DoubleTail.blank (hw : w.head? ≠ some '\n') (h : DoubleTail w r) : DoubleTail (' ' :: w) (' ' :: r) := by
  rcases h.head with ⟨n, w', r', rfl, rfl, hbegins, h'⟩ | hline | hbegins
  · exact .blanks (n + 1) hbegins h'
  · exact absurd hline hw
  · exact .blanks 0 hbegins h

/-- **What stands between double quotes is read as its words, blanks and escapes.** -/
theorem textAndRest_of_tail {fuel more : Nat} (acc text : List Char) (hw : DoubleTail w r) (h : p.Goes w q)
    (hfuel : w.length < fuel) (hmore : w.length < more) :
    textAndRest fuel more p acc text = .ok (acc ++ text ++ r, q) := by
  induction hw generalizing p fuel more acc text with
  | close =>
    obtain ⟨fuel, rfl⟩ := Nat.exists_eq_add_one_of_ne_zero (by omega : fuel ≠ 0)
    obtain ⟨more, rfl⟩ := Nat.exists_eq_add_one_of_ne_zero (by omega : more ≠ 0)
    rw [textAndRest, quotedText_stop h.rest (.inr rfl)]
    change quotedRest true (more + 1) p (acc ++ text) = _
    rw [quotedRest, if_pos rfl, if_pos h.peek, ← h.eq_step, List.append_nil]
  | @char c w r hc _ ih =>
    obtain ⟨m, hchar, hrest⟩ := (Goes.split h : ∃ m, p.Goes [c] m ∧ m.Goes w q)
    rw [List.length_cons] at hfuel hmore
    have hread := ih acc (text ++ [c]) hrest (by omega : w.length < fuel) (by omega : w.length < more)
    rw [textAndRest] at hread ⊢
    rw [quotedText_step hchar hc, hread]
    simp
  | @quote w r _ ih =>
    obtain ⟨fuel, rfl⟩ := Nat.exists_eq_add_one_of_ne_zero (by omega : fuel ≠ 0)
    obtain ⟨m, hquote, hrest⟩ := (Goes.split h : ∃ m, p.Goes ['\''] m ∧ m.Goes w q)
    rw [List.length_cons] at hfuel hmore
    have hread := ih acc (text ++ ['\'']) hrest (by omega : w.length < fuel) (by omega : w.length < more)
    rw [textAndRest] at hread ⊢
    rw [quotedText_quote hquote, hread]
    simp
  | @blanks w r n hbegins _ ih =>
    obtain ⟨fuel, rfl⟩ := Nat.exists_eq_add_one_of_ne_zero (by omega : fuel ≠ 0)
    obtain ⟨more, rfl⟩ := Nat.exists_eq_add_one_of_ne_zero (by omega : more ≠ 0)
    obtain ⟨m, hblanks, hrest⟩ := h.split
    rw [List.length_append, List.length_replicate] at hmore
    have hbound : w.length < m.rest.length + 2 := by
      rw [hrest.length_rest]
      omega
    rw [textAndRest_gap (.blanks n) hblanks (hbegins.atWord hrest.rest), ih _ [] hrest hbound (by omega)]
    simp
  | @escape w r c _ ih =>
    obtain ⟨fuel, rfl⟩ := Nat.exists_eq_add_one_of_ne_zero (by omega : fuel ≠ 0)
    obtain ⟨m, hescape, hrest⟩ := h.split
    obtain ⟨l, e, he⟩ := escapeChar_head c
    rw [List.length_append, he, List.length_cons, List.length_cons] at hfuel hmore
    have hread := ih acc (text ++ [c]) hrest (by omega : w.length < fuel) (by omega : w.length < more)
    rw [textAndRest] at hread ⊢
    rw [quotedText_escape hescape, hread]
    simp
  | @escapedBlank w r _ ih =>
    obtain ⟨fuel, rfl⟩ := Nat.exists_eq_add_one_of_ne_zero (by omega : fuel ≠ 0)
    obtain ⟨m, hescape, hrest⟩ := (Goes.split h : ∃ m, p.Goes ['\\', ' '] m ∧ m.Goes w q)
    rw [List.length_cons, List.length_cons] at hfuel hmore
    have hread := ih acc (text ++ [' ']) hrest (by omega : w.length < fuel) (by omega : w.length < more)
    rw [textAndRest] at hread ⊢
    rw [quotedText_letter hescape rfl, hread]
    simp
  | @fold w r n hbegins _ ih =>
    obtain ⟨fuel, rfl⟩ := Nat.exists_eq_add_one_of_ne_zero (by omega : fuel ≠ 0)
    obtain ⟨m, hfold, hrest⟩ :=
      (Goes.split h : ∃ m, p.Goes ('\\' :: '\n' :: List.replicate (n + 1) ' ') m ∧ m.Goes w q)
    simp only [List.length_cons, List.length_append] at hfuel hmore
    have hread := ih acc text hrest (by omega : w.length < fuel) (by omega : w.length < more)
    rw [textAndRest] at hread ⊢
    rw [quotedText_fold hfold (hbegins.atWord hrest.rest), hread]
  | @wrap w r n hbegins _ ih =>
    obtain ⟨fuel, rfl⟩ := Nat.exists_eq_add_one_of_ne_zero (by omega : fuel ≠ 0)
    obtain ⟨more, rfl⟩ := Nat.exists_eq_add_one_of_ne_zero (by omega : more ≠ 0)
    obtain ⟨m, hline, hrest⟩ :=
      (Goes.split h : ∃ m, p.Goes ('\n' :: List.replicate (n + 1) ' ') m ∧ m.Goes w q)
    simp only [List.length_cons, List.length_append] at hmore
    have hbound : w.length < m.rest.length + 2 := by
      rw [hrest.length_rest]
      omega
    rw [textAndRest_gap (.fold n) hline (hbegins.atWord hrest.rest), ih _ [] hrest hbound (by omega)]
    simp

/-! ## How a text is written -/

/-- What a text is read as that was written between double quotes. Where lines are folded at every chance, a
fold between an escape and a blank makes the backslash that announces the blank one of the text. The flags say
whether the text has begun and whether an escape within it is just behind. -/
def rereadFrom (deep : Bool) : Bool → Bool → List Char → List Char
  | _, _, [] => []
  | inside, behind, c :: r =>
    (if deep && behind && c = ' ' && !r.isEmpty then ['\\', ' ', ' '] else [c]) ++
      rereadFrom deep true (inside && needsEscape c) r

theorem rereadFrom_cons {deep inside : Bool} (hc : needsEscape c = false) (s : List Char) :
    rereadFrom deep inside false (c :: s) = c :: rereadFrom deep true false s := by
  simp [rereadFrom, hc]

/-- What is behind matters only where a blank is next that is not the last character. -/
theorem rereadFrom_behind {deep inside behind : Bool}
    (h : ∀ c cs, s = ' ' :: c :: cs → deep = true → behind = true → False) :
    rereadFrom deep inside behind s = rereadFrom deep inside false s := by
  cases s with
  | nil => rfl
  | cons c cs =>
    have hcond : (deep && behind && c = ' ' && !cs.isEmpty) = false := by
      by_contra hc
      simp only [Bool.not_eq_false, Bool.and_eq_true, decide_eq_true_eq] at hc
      obtain ⟨⟨⟨hd, hb⟩, rfl⟩, hcs⟩ := hc
      obtain ⟨d, ds, rfl⟩ : ∃ d ds, cs = d :: ds := by
        cases cs with
        | nil => cases hcs
        | cons d ds => exact ⟨d, ds, rfl⟩
      exact h d ds rfl hd hb
    rw [rereadFrom, rereadFrom, hcond]
    simp

theorem rereadFrom_broken (hs : s ≠ []) :
    rereadFrom true true true (' ' :: s) = '\\' :: ' ' :: ' ' :: rereadFrom true true false s := by
  have hblank : needsEscape ' ' = false := by decide
  cases s with
  | nil => exact absurd rfl hs
  | cons c cs => rw [rereadFrom, hblank]; rfl

theorem head_rereadFrom {deep inside behind : Bool} (hc : c ≠ ' ') (cs : List Char) :
    (rereadFrom deep inside behind (c :: cs)).head? = some c := by
  simp [rereadFrom, hc]

/-- A character that is not escaped is a blank or stands for itself. -/
theorem plain_of_not_escaped (h : needsEscape c = false) : c = ' ' ∨ c = '\'' ∨ isPlainInQuotes c = true := by
  by_cases hspace : c = ' '
  · exact .inl hspace
  by_cases hquote : c = '\''
  · exact .inr (.inl hquote)
  have hne : ∀ d, needsEscape d = true → c ≠ d := by
    rintro d hd rfl
    rw [h] at hd
    cases hd
  have hend : c.toNat ≠ 0 := fun h0 => hne '\x00' (by decide) (Char.ext (UInt32.toNat_inj.1 h0))
  have hrange : c.toNat ≠ 0x85 ∧ c.toNat ≠ 0x2028 ∧ c.toNat ≠ 0x2029 := by
    simp only [needsEscape, Bool.or_eq_false_iff, decide_eq_false_iff_not] at h
    exact ⟨h.1.1.1.1.2, h.1.1.1.2, h.1.1.2⟩
  right
  right
  simp [isPlainInQuotes, isGap, isBreakOrEnd, isEnd, isBreak, hspace, hquote, hend, hrange, hne '"' (by decide),
    hne '\\' (by decide), hne '\t' (by decide), hne '\n' (by decide), hne '\r' (by decide)]

/-- Characters that are not escaped may stand in front of anything but a line end. -/
theorem DoubleTail.held (hw : w.head? ≠ some '\n') (h : DoubleTail w r)
    (hcs : ∀ c ∈ cs, needsEscape c = false) : DoubleTail (cs ++ w) (cs ++ r) := by
  induction cs with
  | nil => exact h
  | cons c cs ih =>
    have hmore := ih fun d hd => hcs d (List.mem_cons_of_mem _ hd)
    rcases plain_of_not_escaped (hcs c List.mem_cons_self) with rfl | rfl | hc
    · refine hmore.blank ?_
      cases cs with
      | nil => exact hw
      | cons d ds =>
        rintro ⟨⟩
        exact absurd (hcs '\n' (List.mem_cons_of_mem _ List.mem_cons_self)) (by decide)
    · exact .quote hmore
    · exact .char hc hmore

/-- A backslash may stand before them if they begin with a blank. -/
theorem DoubleTail.held_behind {pre : List Char} (hw : w.head? ≠ some '\n') (h : DoubleTail w r)
    (hcs : ∀ c ∈ cs, needsEscape c = false) (hpre : pre = [] ∨ pre = ['\\'] ∧ cs.head? = some ' ') :
    DoubleTail (pre ++ (cs ++ w)) (cs ++ r) := by
  rcases hpre with rfl | ⟨rfl, hhead⟩
  · have htail := h.held hw hcs
    exact htail
  · cases cs with
    | nil => cases hhead
    | cons c cs =>
      obtain rfl : c = ' ' := Option.some.inj hhead
      have hmore : ∀ d ∈ cs, needsEscape d = false := fun d hd => hcs d (List.mem_cons_of_mem _ hd)
      have htail := h.held hw hmore
      exact .escapedBlank htail

theorem DoubleTail.beginsWord (h : DoubleTail w r) (hr : r.head? ≠ some ' ') : BeginsWord w := by
  cases h with
  | close => exact ⟨'"', [], rfl, by decide⟩
  | char hc =>
    simp only [isPlainInQuotes, Bool.not_eq_true', Bool.or_eq_false_iff] at hc
    exact ⟨_, _, rfl, hc.2⟩
  | quote => exact ⟨'\'', _, rfl, by decide⟩
  | blanks | wrap | escapedBlank => exact absurd rfl hr
  | escape c =>
    obtain ⟨l, e, he⟩ := escapeChar_head c
    rw [he]
    exact ⟨'\\', _, rfl, by decide⟩
  | fold => exact ⟨'\\', _, rfl, by decide⟩

/-- A fold as it is written. -/
theorem Page.foldBefore_writes {p : Page} (hp : p.InText n) (hn : 0 < n) (next : Char) :
    p.Writes ('\\' :: '\n' :: (List.replicate n ' ' ++ announce next)) (p.foldBefore next) ∧
      (p.foldBefore next).InText n ∧ (p.foldBefore next).column = n + (announce next).length := by
  obtain ⟨hfold, hin, hcolumn⟩ := fold_writes (p := p.put ['\\']) hp.indent hp.atIndent hn
  refine ⟨?_, hin.put _, ?_⟩
  · have hwhole := ((writes_put p ['\\']).trans hfold).trans (writes_put _ (announce next))
    rw [foldBefore]
    simpa using hwhole
  · change (p.put ['\\']).fold.column + _ = _
    rw [hcolumn]

/-- At an escape what is held is written, then the escape, and then the line may be folded. -/
theorem doubleLoop_escaped (split : Bool) (p : Page) (position : Nat) (held : List Char)
    (hc : needsEscape c = true) (r : List Char) :
    ∃ q, p.Writes (held.reverse ++ escapeChar c) q ∧ (∀ n, p.InText n → q.InText n ∧ n + 2 ≤ q.column) ∧
      doubleLoop split p position held (c :: r) =
        if 0 < position ∧ r ≠ [] ∧ split = true ∧ q.column > lineWidth + 1 then
          doubleLoop split ((q.put []).foldBefore (r.headD 'x')) (position + 1) [] r
        else doubleLoop split q (position + 1) [] r := by
  refine ⟨(if held.isEmpty then p else p.put held.reverse).put (escapeChar c), ?_, ?_, ?_⟩
  · cases held with
    | nil => exact Page.writes_put p _
    | cons d ds => exact (Page.writes_put p _).trans (Page.writes_put _ _)
  · intro n hp
    obtain ⟨l, e, he⟩ := escapeChar_head c
    have hheld : (if held.isEmpty then p else p.put held.reverse).InText n := by
      split
      case isTrue => exact hp
      case isFalse => exact hp.put _
    refine ⟨hheld.put _, ?_⟩
    have hcolumn := hheld.column
    rw [he]
    change n + 2 ≤ _ + (e.length + 1 + 1)
    omega
  · rw [doubleLoop]
    cases r with
    | nil => simp [hc]
    | cons d r => simp [hc, and_assoc]

/-- At another character the line may be folded in front of it. -/
theorem doubleLoop_plain (split : Bool) (p : Page) (position : Nat) (held : List Char)
    (hc : needsEscape c = false) (r : List Char) :
    doubleLoop split p position held (c :: r) =
      if 0 < position ∧ r ≠ [] ∧ split = true ∧ (c = ' ' ∨ held = []) ∧ p.column + held.length > lineWidth then
        doubleLoop split ((p.put held.reverse).foldBefore c) (position + 1) [c] r
      else doubleLoop split p (position + 1) (c :: held) r := by
  rw [doubleLoop]
  cases r with
  | nil => simp [hc]
  | cons d r => simp [hc, and_assoc]

/-- Behind a fold the text goes on with a word, or with the backslash that announces a blank. -/
theorem DoubleTail.folded {next : Char} (h : DoubleTail (announce next ++ w) r)
    (hnext : next ≠ ' ' → r.head? ≠ some ' ') (m : Nat) :
    DoubleTail ('\\' :: '\n' :: (List.replicate (m + 1) ' ' ++ (announce next ++ w))) r := by
  refine .fold m ?_ h
  by_cases hc : next = ' '
  · rw [announce, if_pos hc]
    exact ⟨'\\', w, rfl, by decide⟩
  · exact h.beginsWord (hnext hc)

/-- **A text is written between double quotes as something that is read as `rereadFrom` says.** The induction
is on the length of the text, as a fold at an escape settles the character behind it, too; `pre` is the
backslash that announces the blank that is held first. -/
theorem doubleLoop_written (hn : 0 < n) (split : Bool) {p : Page} (position : Nat) {held pre : List Char}
    (hp : p.InText n) (hheld : ∀ c ∈ held, needsEscape c = false)
    (hpre : pre = [] ∨ pre = ['\\'] ∧ held.reverse.head? = some ' ') (s : List Char) :
    ∃ w, p.Writes w (doubleLoop split p position held s) ∧
      DoubleTail (pre ++ (w ++ ['"'])) (held.reverse ++ rereadFrom (split && 80 ≤ n) (0 < position) false s) := by
  induction hlength : s.length using Nat.strong_induction_on generalizing s p position held pre with
  | h length ih =>
  subst hlength
  have hrev : ∀ c ∈ held.reverse, needsEscape c = false := fun c hc => hheld c (List.mem_reverse.1 hc)
  obtain ⟨m, rfl⟩ := Nat.exists_eq_add_one_of_ne_zero (Nat.ne_of_gt hn)
  cases s with
  | nil =>
    refine ⟨held.reverse, ?_, ?_⟩
    · cases held with
      | nil => exact .refl p
      | cons d ds => exact Page.writes_put p _
    · have htail := DoubleTail.close.held_behind (by decide) hrev hpre
      rwa [rereadFrom]
  | cons c r =>
    cases hc : needsEscape c with
    | false =>
      rw [doubleLoop_plain split p position held hc, rereadFrom_cons hc]
      split
      case isTrue =>
        obtain ⟨hfold, hin, -⟩ := Page.foldBefore_writes (hp.put held.reverse) hn c
        have hone : ∀ d ∈ [c], needsEscape d = false := by simpa using hc
        have hpre' : announce c = [] ∨ announce c = ['\\'] ∧ [c].reverse.head? = some ' ' := by
          unfold announce
          split
          case isTrue h => exact .inr ⟨rfl, congrArg some h⟩
          case isFalse => exact .inl rfl
        obtain ⟨w, hw, htail⟩ := ih r.length (Nat.lt_succ_self _) (position + 1) hin hone hpre' r rfl
        have hhead : c ≠ ' ' → ([c].reverse ++ rereadFrom (split && 80 ≤ m + 1) (0 < position + 1) false r).head? ≠
            some ' ' := fun h he => h (Option.some.inj he)
        refine ⟨_, ((Page.writes_put p _).trans hfold).trans hw, ?_⟩
        have hwhole := (htail.folded hhead m).held_behind (by simp) hrev hpre
        simpa using hwhole
      case isFalse =>
        have hmore : ∀ d ∈ c :: held, needsEscape d = false := by
          intro d hd
          rcases List.mem_cons.1 hd with rfl | hd
          · exact hc
          · exact hheld d hd
        have hpre' : pre = [] ∨ pre = ['\\'] ∧ (c :: held).reverse.head? = some ' ' := by
          refine hpre.imp_right fun h => ⟨h.1, ?_⟩
          rw [List.reverse_cons, List.head?_append, h.2]
          rfl
        obtain ⟨w, hw, htail⟩ := ih r.length (Nat.lt_succ_self _) (position + 1) hp hmore hpre' r rfl
        refine ⟨w, hw, ?_⟩
        simpa using htail
    | true =>
      obtain ⟨q, hq, hpage, hloop⟩ := doubleLoop_escaped split p position held hc r
      obtain ⟨hin, hcolumn⟩ := hpage (m + 1) hp
      have hescape : ∀ {v t}, DoubleTail v t → DoubleTail (pre ++ (held.reverse ++ (escapeChar c ++ v)))
          (held.reverse ++ c :: t) := fun h => by
        obtain ⟨l, e, he⟩ := escapeChar_head c
        exact (h.escape c).held_behind (by rw [he]; simp) hrev hpre
      have hnone : ∀ d ∈ ([] : List Char), needsEscape d = false := List.forall_mem_nil _
      have hstart : rereadFrom (split && 80 ≤ m + 1) (0 < position) false (c :: r) =
          c :: rereadFrom (split && 80 ≤ m + 1) true (decide (0 < position)) r := by
        simp [rereadFrom, hc]
      rw [hloop, hstart]
      split
      case isTrue hfolds =>
        obtain ⟨hposition, hr, hsplit, -⟩ := hfolds
        obtain ⟨d, r, rfl⟩ := List.exists_cons_of_ne_nil hr
        rw [List.headD_cons]
        obtain ⟨hfold, hin', hcolumn'⟩ := Page.foldBefore_writes (hin.put []) hn d
        have hfirst := hq.trans ((Page.writes_put q []).trans hfold)
        rw [decide_eq_true hposition]
        by_cases hd : d = ' '
        · subst hd
          have hone : ∀ d ∈ [' '], needsEscape d = false := fun d hd => by
            rw [List.mem_singleton.1 hd]
            decide
          have hpre' : announce ' ' = [] ∨ announce ' ' = ['\\'] ∧ [' '].reverse.head? = some ' ' := .inr ⟨rfl, rfl⟩
          have hless : r.length < (c :: ' ' :: r).length := Nat.lt_succ_of_lt (Nat.lt_succ_self _)
          rw [doubleLoop_plain split _ (position + 1) [] (by decide) r]
          split
          case isTrue hagain =>
            -- the line is folded again, and the blank loses its backslash to the text
            obtain ⟨-, hmore, -, -, hwide⟩ := hagain
            obtain ⟨hfold', hin'', -⟩ := Page.foldBefore_writes (hin'.put []) hn ' '
            obtain ⟨w, hw, htail⟩ := ih r.length hless (position + 1 + 1) hin'' hone hpre' r rfl
            refine ⟨_, (hfirst.trans ((Page.writes_put _ []).trans hfold')).trans hw, ?_⟩
            have hdeep : (split && decide (80 ≤ m + 1)) = true := by
              rw [hcolumn'] at hwide
              change 80 < m + 1 + 1 + 0 at hwide
              rw [hsplit, Bool.true_and]
              exact decide_eq_true (by omega)
            have hread : rereadFrom (split && 80 ≤ m + 1) true true (' ' :: r) =
                '\\' :: ' ' :: ' ' :: rereadFrom (split && 80 ≤ m + 1) true false r := by
              rw [hdeep]
              exact rereadFrom_broken hmore
            have hbegins : BeginsWord (announce ' ' ++ (w ++ ['"'])) := ⟨'\\', w ++ ['"'], rfl, by decide⟩
            have hwrap := (htail.wrap m hbegins).escape '\\'
            have hwhole := hescape (hwrap.fold m ⟨'\\', _, rfl, by decide⟩)
            rw [hread]
            simpa [announce, escapeChar] using hwhole
          case isFalse hagain =>
            obtain ⟨w, hw, htail⟩ := ih r.length hless (position + 1 + 1) hin' hone hpre' r rfl
            refine ⟨_, hfirst.trans hw, ?_⟩
            have hread : rereadFrom (split && 80 ≤ m + 1) true true (' ' :: r) =
                ' ' :: rereadFrom (split && 80 ≤ m + 1) true false r := by
              rw [rereadFrom_behind, rereadFrom_cons (by decide)]
              intro d ds hr hdeep _
              have hwide := of_decide_eq_true (Bool.and_eq_true_iff.1 hdeep).2
              refine hagain ⟨Nat.succ_pos _, ?_, hsplit, .inl rfl, ?_⟩
              · rw [(List.cons.inj hr).2]
                exact List.cons_ne_nil d ds
              · rw [hcolumn']
                change 80 < m + 1 + 1 + 0
                omega
            have hwhole := hescape (htail.folded (fun h => absurd rfl h) m)
            rw [hread]
            simpa using hwhole
        · obtain ⟨w, hw, htail⟩ := ih (d :: r).length (Nat.lt_succ_self _) (position + 1) hin' hnone (.inl rfl) (d :: r) rfl
          refine ⟨_, hfirst.trans hw, ?_⟩
          have hread : rereadFrom (split && 80 ≤ m + 1) true true (d :: r) =
              rereadFrom (split && 80 ≤ m + 1) true false (d :: r) :=
            rereadFrom_behind fun e es he _ _ => hd (List.cons.inj he).1
          have hann : announce d = [] := if_neg hd
          have htail' : DoubleTail (announce d ++ (w ++ ['"'])) (rereadFrom (split && 80 ≤ m + 1) true false (d :: r)) := by
            rw [hann]
            exact htail
          have hhead : d ≠ ' ' → (rereadFrom (split && 80 ≤ m + 1) true false (d :: r)).head? ≠ some ' ' := by
            intro _ he
            rw [head_rereadFrom hd] at he
            exact hd (Option.some.inj he)
          have hwhole := hescape (htail'.folded hhead m)
          rw [hread]
          simpa using hwhole
      case isFalse hfolds =>
        obtain ⟨w, hw, htail⟩ := ih r.length (Nat.lt_succ_self _) (position + 1) hin hnone (.inl rfl) r rfl
        refine ⟨_, hq.trans hw, ?_⟩
        -- lines are folded at every chance only if there is one here
        have hsame : rereadFrom (split && 80 ≤ m + 1) true (decide (0 < position)) r =
            rereadFrom (split && 80 ≤ m + 1) true false r := by
          refine rereadFrom_behind fun d ds hr hdeep hbehind => hfolds ⟨of_decide_eq_true hbehind, ?_, ?_, ?_⟩
          · rw [hr]
            exact List.cons_ne_nil _ _
          · exact (Bool.and_eq_true_iff.1 hdeep).1
          · have := of_decide_eq_true (Bool.and_eq_true_iff.1 hdeep).2
            change 80 + 1 < q.column
            omega
        rw [hsame]
        simpa using hescape htail

/-- What a text is read as that was written between double quotes at an indentation. -/
def rereadDouble (split : Bool) (n : Nat) (s : List Char) : List Char :=
  rereadFrom (split && lineWidth ≤ n) false false s

/-- **Every text is written between double quotes as something that is read as `rereadDouble` says.** -/
theorem putDouble_written {p : Page} (hp : p.indent = some n) (hn : 0 < n) (hcolumn : n ≤ p.column + 1)
    (split : Bool) (s : List Char) :
    ∃ w, p.Writes ((if p.afterBlank then [] else [' ']) ++ '"' :: w) (putDouble p s split) ∧
      ∀ a b : Place, a.Goes ('"' :: w) b →
        quotedScalar true a = .ok (.scalar (String.ofList (rereadDouble split n s)) .double, b) := by
  have hopen : p.Writes ((if p.afterBlank then [] else [' ']) ++ ['"']) (p.indicator "\"" true false false) := by
    simpa using Page.writes_indicator p "\"" true false false
  have hin : (p.indicator "\"" true false false).InText n := by
    refine ⟨hp, Bool.and_false _, ?_⟩
    unfold Page.indicator
    cases p.afterBlank
    · exact hcolumn.trans (Nat.le_succ _)
    · exact hcolumn
  obtain ⟨w, hw, htail⟩ := doubleLoop_written hn split 0 hin (List.forall_mem_nil _) (.inl rfl) s
  have hclose : ∀ q : Page, q.Writes ['"'] (q.indicator "\"" false false false) := fun q => by
    simpa using Page.writes_indicator q "\"" false false false
  refine ⟨w ++ ['"'], ?_, fun a b hab => ?_⟩
  · have hwhole := (hopen.trans hw).trans (hclose _)
    simpa [putDouble] using hwhole
  · have hstep : a.step.Goes (w ++ ['"']) b := hab.cons
    have hturns : (w ++ ['"']).length < a.step.rest.length + 2 := by
      rw [hstep.length_rest]
      omega
    have hread := textAndRest_of_tail [] [] htail hstep hturns hturns
    rw [quotedScalar]
    change ((quotedText true (a.step.rest.length + 2) a.step []).bind fun x =>
      (quotedRest true (a.step.rest.length + 2) x.2 x.1).bind _) = _
    change ((quotedText true (a.step.rest.length + 2) a.step []).bind fun x =>
      quotedRest true (a.step.rest.length + 2) x.2 ([] ++ x.1)) = _ at hread
    cases ht : quotedText true (a.step.rest.length + 2) a.step [] with
    | error e => rw [ht] at hread; cases hread
    | ok x =>
      rw [ht] at hread
      change quotedRest true (a.step.rest.length + 2) x.2 x.1 = _ at hread
      change (quotedRest true (a.step.rest.length + 2) x.2 x.1).bind _ = _
      rw [hread]
      rfl

/-! ## Which texts are kept -/

/-- Within the text, and not at its end, a blank stands behind a character that is escaped. -/
def BlankBehindEscape (s : List Char) : Prop :=
  ∃ before c behind, s = before ++ c :: ' ' :: behind ∧ before ≠ [] ∧ behind ≠ [] ∧ needsEscape c = true

/-- A text does not get shorter by being read back. -/
theorem length_le_rereadFrom (deep inside behind : Bool) (s : List Char) :
    s.length ≤ (rereadFrom deep inside behind s).length := by
  induction s generalizing inside behind with
  | nil => exact Nat.le_refl 0
  | cons c s ih =>
    have hmore := ih true (inside && needsEscape c)
    rw [rereadFrom, List.length_append, List.length_cons]
    split
    case isTrue =>
      change s.length + 1 ≤ 3 + _
      omega
    case isFalse =>
      change s.length + 1 ≤ 1 + _
      omega

/-- Neither does the part of it before any character. -/
theorem exists_rereadFrom_append (deep inside behind : Bool) {before : List Char} (hbefore : before ≠ [])
    (s : List Char) : ∃ u behind', rereadFrom deep inside behind (before ++ s) = u ++ rereadFrom deep true behind' s ∧
      before.length ≤ u.length := by
  induction before generalizing inside behind with
  | nil => exact absurd rfl hbefore
  | cons c before ih =>
    rw [List.cons_append, rereadFrom]
    have hone : ∀ b : Bool, 1 ≤ (if b then ['\\', ' ', ' '] else [c]).length := by
      intro b
      cases b
      · exact Nat.le_refl 1
      · exact Nat.le_add_left 1 2
    cases before with
    | nil => exact ⟨_, _, rfl, hone _⟩
    | cons d ds =>
      obtain ⟨u, behind', hu, hlength⟩ := ih true (inside && needsEscape c) (List.cons_ne_nil d ds)
      refine ⟨(if deep && behind && c = ' ' && !(d :: ds ++ s).isEmpty then ['\\', ' ', ' '] else [c]) ++ u,
        behind', ?_, ?_⟩
      · rw [hu, ← List.append_assoc]
      · have := hone (deep && behind && c = ' ' && !(d :: ds ++ s).isEmpty)
        rw [List.length_append, List.length_cons]
        omega

theorem rereadFrom_eq_self {inside behind : Bool}
    (h : ∀ before c cs, s = before ++ c :: ' ' :: cs → (inside = true ∨ before ≠ []) → cs ≠ [] →
      needsEscape c = false)
    (hblank : behind = true → ∀ c cs, s ≠ ' ' :: c :: cs) : rereadFrom true inside behind s = s := by
  induction s generalizing inside behind with
  | nil => rfl
  | cons c s ih =>
    rw [rereadFrom_behind fun d ds hs _ hb => hblank hb d ds hs]
    have hmore : rereadFrom true true (inside && needsEscape c) s = s := by
      refine ih (fun before d cs hs _ hcs => ?_) fun hb d ds hs => ?_
      · exact h (c :: before) d cs (by rw [hs, List.cons_append]) (.inr (List.cons_ne_nil _ _)) hcs
      · obtain ⟨hinside, hc⟩ := Bool.and_eq_true_iff.1 hb
        have hno := h [] c (d :: ds) (by rw [hs]; rfl) (.inl hinside) (List.cons_ne_nil _ _)
        rw [hno] at hc
        cases hc
    rw [rereadFrom, hmore]
    simp

/-- **Where lines are folded at every chance, the texts without such a blank are kept, and no others.** -/
theorem rereadFrom_eq_iff (s : List Char) : rereadFrom true false false s = s ↔ ¬ BlankBehindEscape s := by
  constructor
  · rintro h ⟨before, c, behind, rfl, hbefore, hbehind, hc⟩
    obtain ⟨u, b, hu, hlength⟩ := exists_rereadFrom_append true false false hbefore (c :: ' ' :: behind)
    have hlost : (c :: ' ' :: behind).length < (rereadFrom true true b (c :: ' ' :: behind)).length := by
      have hrest := length_le_rereadFrom true true false behind
      have hcond : (true && b && c = ' ' && !(' ' :: behind).isEmpty) = false := by
        have hne : c ≠ ' ' := by
          rintro rfl
          exact absurd hc (by decide)
        simp [hne]
      rw [rereadFrom, hcond, hc, Bool.true_and, rereadFrom_broken hbehind]
      simp only [List.length_cons, List.length_append]
      change behind.length + 1 + 1 < 1 + _
      omega
    have hwhole := congrArg List.length h
    rw [hu, List.length_append, List.length_append] at hwhole
    omega
  · intro h
    refine rereadFrom_eq_self (fun before c cs hs hbefore hcs => ?_) fun hb => nomatch hb
    by_contra hc
    exact h ⟨before, c, cs, hs, hbefore.resolve_left Bool.false_ne_true, hcs, Bool.eq_true_of_not_eq_false hc⟩

theorem rereadFrom_shallow (inside behind : Bool) (s : List Char) : rereadFrom false inside behind s = s := by
  induction s generalizing inside behind with
  | nil => rfl
  | cons c s ih =>
    rw [rereadFrom, ih]
    simp

/-- **Double quotes keep every text** but those with such a blank that are indented as deep as a line is wide. -/
theorem rereadDouble_eq_iff (split : Bool) (n : Nat) (s : List Char) :
    rereadDouble split n s = s ↔ (split = true → lineWidth ≤ n → ¬ BlankBehindEscape s) := by
  unfold rereadDouble
  by_cases hdeep : split = true ∧ lineWidth ≤ n
  · rw [hdeep.1, decide_eq_true hdeep.2, Bool.and_self, rereadFrom_eq_iff]
    exact ⟨fun h _ _ => h, fun h => h rfl hdeep.2⟩
  · have hshallow : (split && decide (lineWidth ≤ n)) = false := by
      rw [Bool.and_eq_false_iff, decide_eq_false_iff_not]
      cases split
      · exact .inl rfl
      · exact .inr fun h => hdeep ⟨rfl, h⟩
    rw [hshallow, rereadFrom_shallow]
    exact ⟨fun _ hs hw => absurd ⟨hs, hw⟩ hdeep, fun _ => rfl⟩

/-- A text that is written between double quotes is read as itself unless it is indented as deep as a line is
wide and has, within it, a blank behind a character that is escaped. -/
theorem double_quotes_keep_iff {p : Page} (hp : p.indent = some n) (hn : 0 < n) (hcolumn : n ≤ p.column + 1)
    (split : Bool) (s : List Char) :
    ∃ w, p.Writes ((if p.afterBlank then [] else [' ']) ++ w) (putDouble p s split) ∧
      ((∀ a b : Place, a.Goes w b → quotedScalar true a = .ok (.scalar (String.ofList s) .double, b)) ↔
        (split = true → lineWidth ≤ n → ¬ BlankBehindEscape s)) := by
  obtain ⟨w, hw, hread⟩ := putDouble_written hp hn hcolumn split s
  rw [← rereadDouble_eq_iff]
  refine ⟨'"' :: w, hw, ⟨fun h => ?_, fun h a b hab => ?_⟩⟩
  · obtain ⟨a, b, hab, -⟩ := Place.exists_text ('"' :: w)
    exact text_inj ((hread a b hab).symm.trans (h a b hab))
  · rw [hread a b hab, h]

end Stepwise.Document
