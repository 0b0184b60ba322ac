import Stepwise.Proofs.Escaping
import Stepwise.Proofs.Unquoted
/-!
# Cutting a text into tokens

Cutting from one state may be gone on with from another one behind it (`Leads`): past a token, into a block
that begins here, or out of one that has ended. What is read of a piece of a text is put together from such
ways.
-/

namespace Stepwise.Document

open Document.Place

variable {p q a b : Place} {w cs : List Char} {c : Char} {n : Nat}

/-! ## Where tokens begin -/

/-- A token begins here, or the text ends. -/
def AtToken (p : Place) : Prop := ∀ c cs, p.rest = c :: cs → isGap c = false ∧ c ≠ '#' ∧ c.toNat ≠ 0xfeff

theorem atToken_of_rest (h : p.rest = c :: cs) (hgap : isGap c = false) (hhash : c ≠ '#') (hmark : c.toNat ≠ 0xfeff) :
    AtToken p := by
  intro d ds hd
  obtain rfl := (List.cons.inj (h.symm.trans hd)).1
  exact ⟨hgap, hhash, hmark⟩

theorem AtToken.stops (h : AtToken p) : p.Stops fun c => c = ' ' || isBreak c := by
  intro c cs hr
  have hgap := (h c cs hr).1
  simp only [isGap, isBreakOrEnd, Bool.or_eq_false_iff] at hgap
  simp only [hgap.1.1, hgap.2.2, Bool.or_self]

theorem AtToken.peek_ne (h : AtToken p) : p.peek ≠ '#' := by
  rw [Place.peek]
  cases hr : p.rest with
  | nil => decide
  | cons c cs => exact (h c cs hr).2.1

theorem AtToken.skipWhile (h : AtToken p) : p.skipWhile (fun c => c = ' ') = p :=
  (Goes.refl p).skipWhile (List.forall_mem_nil _) (stops_space h.stops)

theorem AtToken.lineBreak (h : AtToken p) : p.lineBreak = ([], p) := by
  rw [Place.lineBreak]
  split
  case h_1 heq => exact absurd (h.stops _ _ heq) (by decide)
  case h_2 c cs _ heq =>
    have hstops := h.stops c cs heq
    simp only [Bool.or_eq_false_iff, isBreak] at hstops
    simp [hstops.2, isBreak]
  case h_3 => rfl

/-- The next token begins on the next line. -/
structure NextLine (p : Place) (n : Nat) (q : Place) : Prop where
  goes : p.Goes ('\n' :: List.replicate n ' ') q
  token : AtToken q

theorem line_le (h : p.Goes w q) : p.line ≤ q.line := by
  induction w generalizing p with
  | nil =>
    obtain rfl : p = q := (Goes.refl p).unique h
    exact Nat.le_refl _
  | cons c w ih =>
    have hstep : p.line ≤ p.step.line := by
      rw [Place.step, h.rest]
      dsimp only [List.cons_append]
      split
      · exact Nat.le_succ _
      · exact Nat.le_refl _
    exact hstep.trans (ih h.cons)

namespace NextLine

theorem column (h : NextLine p n q) : q.column = n := column_of_line h.goes

theorem line (h : NextLine p n q) : p.line < q.line := by
  have hstep : p.step.line = p.line + 1 := by
    rw [Place.step, h.goes.rest]
    rfl
  have hmore := line_le h.goes.cons
  omega

theorem index (h : NextLine p n q) : p.index < q.index := by
  rw [h.goes.index, List.length_cons]
  omega

end NextLine

namespace Cutter

/-! ## Past blanks -/

theorem skipBlankLoop_blanks (s : Cutter) (fuel : Nat) (h : s.place.Goes (List.replicate n ' ') q) (hq : AtToken q) :
    skipBlankLoop (fuel + 1) s = { s with place := q } := by
  have hskip : s.place.skipWhile (fun c => c = ' ') = q := h.skipWhile (forall_space n) (stops_space hq.stops)
  rw [skipBlankLoop]
  simp only [hskip, hq.peek_ne, if_false, hq.lineBreak, List.isEmpty_nil, if_true]

theorem skipBlankLoop_line (s : Cutter) (fuel : Nat) (h : NextLine s.place n q) :
    skipBlankLoop (fuel + 2) s =
      { s with place := q, keyAllowed := if s.flowDepth = 0 then true else s.keyAllowed } := by
  have hrest := h.goes.rest
  have hskip : s.place.skipWhile (fun c => c = ' ') = s.place := by
    refine (Goes.refl _).skipWhile (List.forall_mem_nil _) fun c cs hc => ?_
    obtain rfl := (List.cons.inj (hrest.symm.trans hc)).1
    rfl
  have hpeek : s.place.peek ≠ '#' := by
    rw [h.goes.peek]
    decide
  have hline : s.place.lineBreak = (['\n'], s.place.step) := (Goes.step hrest).lineBreak (by decide) (by decide)
  rw [skipBlankLoop]
  simp only [hskip, hpeek, if_false, hline]
  exact skipBlankLoop_blanks _ fuel h.goes.cons h.token

/-- No mark of the order of bytes comes first. -/
theorem skipBlank_eq (s : Cutter) (h : s.place.peek.toNat ≠ 0xfeff) :
    s.skipBlank = skipBlankLoop (s.place.rest.length + 1) s := by
  unfold skipBlank
  simp only [h, decide_false, Bool.and_false, Bool.false_eq_true, if_false]

theorem skipBlank_blanks (s : Cutter) (h : s.place.Goes (List.replicate n ' ') q) (hq : AtToken q) :
    s.skipBlank = { s with place := q } := by
  rw [skipBlank_eq, skipBlankLoop_blanks _ _ h hq]
  cases n with
  | zero =>
    obtain rfl : s.place = q := (Goes.refl _).unique h
    rw [Place.peek]
    cases hr : s.place.rest with
    | nil => decide
    | cons c cs => exact (hq c cs hr).2.2
  | succ n =>
    have hblank : s.place.Goes (' ' :: List.replicate n ' ') q := h
    rw [hblank.peek]
    decide

theorem skipBlank_line (s : Cutter) (h : NextLine s.place n q) :
    s.skipBlank = { s with place := q, keyAllowed := if s.flowDepth = 0 then true else s.keyAllowed } := by
  have hrest := h.goes.rest
  have hlength : s.place.rest.length = s.place.rest.length - 1 + 1 := by
    rw [hrest]
    rfl
  rw [skipBlank_eq, hlength]
  · exact skipBlankLoop_line s _ h
  · rw [h.goes.peek]
    decide

/-! ## Candidates -/

/-- Where nothing may turn out to be a key, nothing is forgotten. -/
theorem dropStale_of_none (s : Cutter) (h : s.candidates = []) : s.dropStale = .ok s := by
  obtain ⟨p, ts, is, d, k, cs⟩ := s
  obtain rfl : cs = [] := h
  rfl

theorem dropStale_fresh (s : Cutter) {d : Nat} {k : Candidate} (h : s.candidates = [(d, k)])
    (hline : k.line = s.place.line) (hindex : s.place.index ≤ k.index + 1024) : s.dropStale = .ok s := by
  obtain ⟨p, ts, is, fd, ka, cs⟩ := s
  obtain rfl : cs = [(d, k)] := h
  change k.line = p.line at hline
  change p.index ≤ k.index + 1024 at hindex
  have hno : ¬ p.index - k.index > 1024 := by omega
  simp [dropStale, hline, hno]

/-- What began on another line is no key, unless it had to be one. -/
theorem dropStale_line (s : Cutter) {d : Nat} {k : Candidate} (h : s.candidates = [(d, k)])
    (hline : k.line ≠ s.place.line) (hrequired : k.required = false) :
    s.dropStale = .ok { s with candidates := [] } := by
  obtain ⟨p, ts, is, fd, ka, cs⟩ := s
  obtain rfl : cs = [(d, k)] := h
  change k.line ≠ p.line at hline
  simp [dropStale, hline, hrequired]

/-! ## Going on from another state -/

/-- What is left to do where the blanks before a token have been passed. -/
def resume (fuel : Nat) (s : Cutter) : Scan (Array Token) := do
  let (s, done) ← s.token
  if done then return s.tokens else cutLoop fuel s

theorem cutLoop_succ (fuel : Nat) (s : Cutter) : cutLoop (fuel + 1) s = s.skipBlank.dropStale.bind (resume fuel) := by
  change (s.skipBlank.dropStale.bind fun t => t.token).bind _ = _
  cases s.skipBlank.dropStale <;> rfl

/-- Cutting from the first state goes on from the second. It takes a turn for every character between them at
most, so that the length of a text bounds its turns. -/
def Leads (s t : Cutter) : Prop :=
  ∃ k, s.place.index + k ≤ t.place.index ∧ ∀ fuel, resume (fuel + k) s = resume fuel t

namespace Leads

variable {s t u : Cutter}

theorem refl (s : Cutter) : Leads s s := ⟨0, Nat.le_refl _, fun _ => rfl⟩

theorem trans (h : Leads s t) (h' : Leads t u) : Leads s u := by
  obtain ⟨j, hj, hst⟩ := h
  obtain ⟨k, hk, htu⟩ := h'
  refine ⟨k + j, by omega, fun fuel => ?_⟩
  rw [← Nat.add_assoc, hst, htu]

/-- States at one place of which the same token is read. -/
theorem of_eq (h : s.token = t.token) (hplace : s.place = t.place) : Leads s t :=
  ⟨0, Nat.le_of_eq (by rw [hplace]; rfl), fun fuel => by rw [Nat.add_zero, resume, resume, h]⟩

/-- A token is read, and what stands before the next one is passed. -/
theorem of_token {m : Cutter} (h : s.token = .ok (m, false)) (hm : m.skipBlank.dropStale = .ok t)
    (hindex : s.place.index < t.place.index) : Leads s t := by
  refine ⟨1, hindex, fun fuel => ?_⟩
  have hstep : resume (fuel + 1) s = cutLoop (fuel + 1) m := by
    rw [resume, h]
    rfl
  rw [hstep, cutLoop_succ, hm]
  rfl

end Leads

/-! ## Blocks -/

/-- Between the tokens of blocks: nothing may turn out to be a key. -/
def idle (p : Place) (ts : List Token) (indents : List Int) (allowed : Bool) : Cutter :=
  ⟨p, ts.toArray, indents, 0, allowed, []⟩

theorem unwind_of_le {s : Cutter} {column : Int} (h : s.indent ≤ column) : s.unwind column = s := by
  rw [unwind, unwindLoop, if_neg (not_lt.2 h)]
  split <;> rfl

/-- Only what unwinding leaves counts. -/
theorem token_congr {s t : Cutter} (h : s.unwind s.place.column = t.unwind t.place.column) : s.token = t.token := by
  unfold token
  rw [h]

/-- **Where a token is indented less, a block ends.** -/
theorem leads_close (ts : List Token) {indent : Int} (indents : List Int) (allowed : Bool)
    (h : (p.column : Int) < indent) :
    Leads (idle p ts (indent :: indents) allowed) (idle p (ts ++ [.blockEnd]) indents allowed) := by
  refine .of_eq (token_congr ?_) rfl
  have hdeep : (idle p ts (indent :: indents) allowed).indent > p.column := h
  change unwindLoop p.column (indents.length + 1 + 1) _ = unwindLoop p.column (indents.length + 1) _
  rw [unwindLoop, if_pos hdeep]
  congr 1
  simp [idle, add]

/-! ## Marks -/

/-- The block that begins at a column, unless it has begun before. -/
def enter (ts : List Token) (indents : List Int) (column : Int) (start : Token) : List Token × List Int :=
  if indents.headD (-1) < column then (ts ++ [start], column :: indents) else (ts, indents)

theorem atMarker_of_gap {d : Char} (h : p.rest = c :: d :: cs) (hd : isGap d = true) : p.atMarker = false := by
  rw [atMarker, h]
  split
  case h_1 heq =>
    obtain rfl := (List.cons.inj (List.cons.inj heq).2).1
    exact absurd hd (by decide)
  case h_2 heq =>
    obtain rfl := (List.cons.inj (List.cons.inj heq).2).1
    exact absurd hd (by decide)
  case h_3 => rfl

/-- The token of a mark is read where a gap stands behind it. -/
theorem token_mark {s : Cutter} {d : Char} (hs : s.indent ≤ s.place.column) (hdepth : s.flowDepth = 0)
    (hrest : s.place.rest = c :: d :: cs) (hd : isGap d = true) :
    (c = '-' → s.token = s.entry.bind fun t => .ok (t, false)) ∧
    (c = '?' → s.token = s.explicitKey.bind fun t => .ok (t, false)) ∧
    (c = ':' → s.token = s.colon.bind fun t => .ok (t, false)) := by
  have hpeek : s.place.peek = c := by rw [Place.peek, hrest]; rfl
  have hnext : isGap (s.place.peekAt 1) = true := by rw [Place.peekAt, hrest]; exact hd
  have hmarker := atMarker_of_gap hrest hd
  have hempty : s.place.rest.isEmpty = false := by rw [hrest]; rfl
  refine ⟨?_, ?_, ?_⟩ <;> rintro rfl <;> unfold token <;>
    simp only [unwind_of_le hs, hpeek, hempty, hnext, hmarker, hdepth, Char.reduceEq, decide_false, decide_true,
      Bool.false_and, Bool.and_false, Bool.or_false, Bool.or_true, Bool.and_true, Bool.false_eq_true, if_false,
      if_true] <;> rfl

/-- The state behind a mark, which may have begun a block. -/
def marked (p : Place) (ts : List Token) (indents : List Int) (start mark : Token) : Cutter :=
  (idle p (enter ts indents p.column start).1 (enter ts indents p.column start).2 true).take 1 mark

theorem mark_idle (ts : List Token) (indents : List Int) :
    (idle p ts indents true).entry = .ok (marked p ts indents .blockSequenceStart .blockEntry) ∧
    (idle p ts indents true).explicitKey = .ok (marked p ts indents .blockMappingStart .key) ∧
    (idle p ts indents true).colon = .ok (marked p ts indents .blockMappingStart .value) := by
  have hblock (start : Token) : ∃ s o, (idle p ts indents true).openBlock p.column = (s, o) ∧
      (if o then s.add start else s) =
        idle p (enter ts indents p.column start).1 (enter ts indents p.column start).2 true := by
    unfold enter
    by_cases hopen : indents.headD (-1) < p.column
    · rw [if_pos hopen]
      exact ⟨_, _, if_pos hopen, by simp [idle, add]⟩
    · rw [if_neg hopen]
      exact ⟨_, _, if_neg hopen, rfl⟩
  refine ⟨?_, ?_, ?_⟩
  · obtain ⟨s, o, hopen, hs⟩ := hblock .blockSequenceStart
    unfold entry
    simp only [show (idle p ts indents true).place = p from rfl, hopen, hs]
    rfl
  · obtain ⟨s, o, hopen, hs⟩ := hblock .blockMappingStart
    unfold explicitKey
    simp only [show (idle p ts indents true).place = p from rfl, hopen, hs]
    rfl
  · obtain ⟨s, o, hopen, hs⟩ := hblock .blockMappingStart
    unfold colon
    simp only [show (idle p ts indents true).place = p from rfl, hopen, hs]
    rfl

/-- **A mark is read**, and what stands behind it on its line. -/
theorem leads_mark (ts : List Token) (indents : List Int) {start mark : Token}
    (hmark : (c = '-' ∧ start = .blockSequenceStart ∧ mark = .blockEntry) ∨
      (c = '?' ∧ start = .blockMappingStart ∧ mark = .key) ∨ (c = ':' ∧ start = .blockMappingStart ∧ mark = .value))
    (h : p.Goes [c, ' '] q) (hq : AtToken q) (hindents : indents.headD (-1) ≤ p.column) :
    Leads (idle p ts indents true)
      (idle q ((enter ts indents p.column start).1 ++ [mark]) (enter ts indents p.column start).2 true) := by
  have htoken := token_mark (s := idle p ts indents true) hindents rfl h.rest rfl
  obtain ⟨hentry, hkey, hcolon⟩ := mark_idle (p := p) ts indents
  have hmarked : (idle p ts indents true).token = .ok (marked p ts indents start mark, false) := by
    rcases hmark with ⟨hc, rfl, rfl⟩ | ⟨hc, rfl, rfl⟩ | ⟨hc, rfl, rfl⟩
    · rw [htoken.1 hc, hentry]
      rfl
    · rw [htoken.2.1 hc, hkey]
      rfl
    · rw [htoken.2.2 hc, hcolon]
      rfl
  have hplace : (marked p ts indents start mark).place.Goes (List.replicate 1 ' ') q := h.cons
  refine .of_token hmarked ?_ (by rw [show (idle q _ _ true).place.index = q.index from rfl, h.index]; exact Nat.lt_add_of_pos_right (Nat.succ_pos 1))
  rw [skipBlank_blanks _ hplace hq, dropStale_of_none _ rfl]
  simp [marked, idle, take, add]

end Cutter

/-! ## Scalars -/

/-- The first word of a text without quotes: it means nothing else where a token begins. -/
structure OpensPlain (cs : List Char) : Prop where
  word : IsPlainWord cs
  first : ∀ c ∈ cs.head?, "#,[]\x7b\x7d&*!|>'\"%@`".toList.contains c = false
  second : ∀ c, cs = [c] → c ≠ '-' ∧ c ≠ '?' ∧ c ≠ ':'
  dashes : ¬ ['-', '-', '-'] <+: cs
  dots : ¬ ['.', '.', '.'] <+: cs

/-- A text that is one scalar; where its lines are folded the next one is indented so deep. -/
inductive IsScalar (n : Nat) : List Char → Token → Prop
  | single {w : List Char} {s : String} : w.head? = some '\'' →
      (∀ a b : Place, a.Goes w b → b.peek ≠ '\'' → quotedScalar false a = .ok (.scalar s .single, b)) →
      IsScalar n w (.scalar s .single)
  | double {w : List Char} {s : String} : w.head? = some '"' →
      (∀ a b : Place, a.Goes w b → quotedScalar true a = .ok (.scalar s .double, b)) →
      IsScalar n w (.scalar s .double)
  | plain {cs tail : List Char} {s : List Char} : OpensPlain cs → (∀ c ∈ tail.head?, isGap c = true) →
      (∀ (indent : Int) (a b : Place) (ended : Bool) (b' : Place), indent ≤ n → indent ≤ a.column + 1 →
        a.Goes (cs ++ tail) b → EndsPlain indent b ended b' →
        plainText false indent (a.rest.length + 1) a [] [] false = (s, ended, b')) →
      IsScalar n (cs ++ tail) (.scalar (String.ofList s) .plain)

/-- What may stand behind a scalar: the end of its line, or the colon that makes it a key. -/
inductive EndsScalar (indent : Int) : Place → Place → Prop
  | colon {p : Place} {c : Char} {cs : List Char} : p.rest = ':' :: c :: cs → isGap c = true → EndsScalar indent p p
  | line {p q : Place} {n : Nat} : NextLine p n q → (n : Int) < indent → EndsScalar indent p q

theorem not_marker {x : Char} {more : List Char} (hno : ¬ [x, x, x] <+: cs) (hne : cs ≠ []) (hmore : more.head? ≠ some x)
    (r : List Char) : cs ++ more ≠ x :: x :: x :: r := by
  intro h
  match cs with
  | [] => exact hne rfl
  | [_] =>
    obtain rfl := (List.cons.inj h).2
    exact hmore rfl
  | [_, _] =>
    obtain rfl := (List.cons.inj (List.cons.inj h).2).2
    exact hmore rfl
  | _ :: _ :: _ :: ds =>
    simp only [List.cons_append, List.cons.injEq] at h
    obtain ⟨rfl, rfl, rfl, -⟩ := h
    exact hno ⟨ds, rfl⟩

/-- No separator of documents begins with the first word of a text. -/
theorem OpensPlain.atMarker {more : List Char} (h : OpensPlain cs) (hrest : p.rest = cs ++ more)
    (hmore : more.head? ≠ some '-' ∧ more.head? ≠ some '.') : p.atMarker = false := by
  rw [Place.atMarker]
  split
  case h_1 heq => exact absurd (hrest.symm.trans heq) (not_marker h.dashes h.word.ne hmore.1 _)
  case h_2 heq => exact absurd (hrest.symm.trans heq) (not_marker h.dots h.word.ne hmore.2 _)
  case h_3 => rfl

namespace Cutter

/-- What remembers that the scalar at a place may be a key. -/
def candidate (p : Place) (ts : List Token) (indents : List Int) : Candidate :=
  ⟨ts.length, indents.headD (-1) = (p.column : Int), p.index, p.line, p.column⟩

/-- The state behind the tokens of a node that may turn out to be a key. -/
def awaiting (p : Place) (ts : List Token) (indents : List Int) (allowed : Bool) (us : List Token) (b : Place)
    (ended : Bool) : Cutter :=
  ⟨b, (ts ++ us).toArray, indents, 0, ended, if allowed then [(0, candidate p ts indents)] else []⟩

theorem saveCandidate_idle (ts : List Token) (indents : List Int) (allowed : Bool) :
    (idle p ts indents allowed).saveCandidate =
      .ok { idle p ts indents allowed with
        candidates := if allowed then [(0, candidate p ts indents)] else [] } := by
  cases allowed
  · rfl
  · change Except.ok _ = Except.ok _
    simp [idle, candidate, indent]

theorem token_quoted {ts : List Token} {indents : List Int} {allowed d : Bool} {t : Token}
    (hindents : indents.headD (-1) ≤ p.column) (hrest : p.rest = (if d then '"' else '\'') :: cs)
    (hread : quotedScalar d p = .ok (t, b)) :
    (idle p ts indents allowed).token = .ok (awaiting p ts indents allowed [t] b false, false) := by
  have hpeek : p.peek = if d then '"' else '\'' := by rw [Place.peek, hrest]; rfl
  have hempty : p.rest.isEmpty = false := by rw [hrest]; rfl
  have hs : (idle p ts indents allowed).unwind p.column = idle p ts indents allowed := unwind_of_le hindents
  have hwhole : (idle p ts indents allowed).token =
      ((idle p ts indents allowed).saveCandidate.bind fun s =>
        { s with keyAllowed := false }.read (quotedScalar d)).bind fun s => .ok (s, false) := by
    unfold token
    cases d <;>
      simp only [show (idle p ts indents allowed).place = p from rfl, hs, hpeek, hempty, Char.reduceEq, decide_false,
        decide_true, Bool.false_and, Bool.or_false, Bool.or_true, Bool.false_eq_true,
        if_false, if_true] <;> rfl
  rw [hwhole, saveCandidate_idle]
  change ((quotedScalar d p).bind _).bind _ = _
  rw [hread]
  simp [awaiting, idle, add]
  rfl

theorem token_plain {ts : List Token} {indents : List Int} {allowed ended : Bool} {more s : List Char}
    (hindents : indents.headD (-1) ≤ p.column) (hopens : OpensPlain cs) (hrest : p.rest = cs ++ more)
    (hmore : more.head? ≠ some '-' ∧ more.head? ≠ some '.')
    (hread : plainText false (indents.headD (-1) + 1) (p.rest.length + 1) p [] [] false = (s, ended, b)) :
    (idle p ts indents allowed).token =
      .ok (awaiting p ts indents allowed [.scalar (String.ofList s) .plain] b ended, false) := by
  have hmarker := hopens.atMarker hrest hmore
  obtain ⟨c, ds, rfl⟩ := List.exists_cons_of_ne_nil hopens.word.ne
  have hpeek : p.peek = c := by rw [Place.peek, hrest]; rfl
  have hempty : p.rest.isEmpty = false := by rw [hrest]; rfl
  have hs : (idle p ts indents allowed).unwind p.column = idle p ts indents allowed := unwind_of_le hindents
  have hgap : isGap c = false := hopens.word.gap c List.mem_cons_self
  have hfirst := hopens.first c rfl
  have hnext : c = '-' ∨ c = '?' ∨ c = ':' → isGap (p.peekAt 1) = false := by
    intro hc
    rw [Place.peekAt, hrest]
    cases ds with
    | nil =>
      obtain ⟨h₁, h₂, h₃⟩ := hopens.second c rfl
      rcases hc with hc | hc | hc
      · exact absurd hc h₁
      · exact absurd hc h₂
      · exact absurd hc h₃
    | cons d ds => exact hopens.word.gap d (List.mem_cons_of_mem _ List.mem_cons_self)
  have hdash : (c = '-' && isGap (p.peekAt 1)) = false := by
    by_cases hc : c = '-'
    · rw [hnext (.inl hc), Bool.and_false]
    · rw [decide_eq_false hc, Bool.false_and]
  have hquery : (c = '?' && isGap (p.peekAt 1)) = false := by
    by_cases hc : c = '?'
    · rw [hnext (.inr (.inl hc)), Bool.and_false]
    · rw [decide_eq_false hc, Bool.false_and]
  have hcolon : (c = ':' && isGap (p.peekAt 1)) = false := by
    by_cases hc : c = ':'
    · rw [hnext (.inr (.inr hc)), Bool.and_false]
    · rw [decide_eq_false hc, Bool.false_and]
  have hno : c ≠ '#' ∧ c ≠ ',' ∧ c ≠ '[' ∧ c ≠ ']' ∧ c ≠ '\x7b' ∧ c ≠ '\x7d' ∧ c ≠ '&' ∧ c ≠ '*' ∧ c ≠ '!' ∧
      c ≠ '|' ∧ c ≠ '>' ∧ c ≠ '\'' ∧ c ≠ '"' ∧ c ≠ '%' ∧ c ≠ '@' ∧ c ≠ '`' := by
    simpa using hfirst
  have hstarts : (idle p ts indents allowed).plainStarts = true := by
    unfold plainStarts
    simp only [show (idle p ts indents allowed).place = p from rfl, hpeek, hgap]
    by_cases hc : c = '-' ∨ c = '?' ∨ c = ':'
    · rw [hnext hc]
      rcases hc with rfl | rfl | rfl <;> simp [idle]
    · simp only [not_or] at hc
      simp [hno, hc]
  have hwhole : (idle p ts indents allowed).token =
      (idle p ts indents allowed).plain.bind fun s => .ok (s, false) := by
    unfold token
    simp only [show (idle p ts indents allowed).place = p from rfl,
      show (idle p ts indents allowed).flowDepth = 0 from rfl, hs, hpeek, hempty, hno, hmarker, hdash, hquery,
      hcolon, hstarts, decide_false, Bool.false_and, Bool.and_false, Bool.or_false, Bool.false_or, Nat.lt_irrefl,
      gt_iff_lt, Bool.false_eq_true, if_false, if_true]
    rfl
  rw [hwhole, plain, saveCandidate_idle]
  simp only [bind, Except.bind, idle, indent, gt_iff_lt, Nat.lt_irrefl, decide_false, hread]
  simp [awaiting, add, pure, Except.pure]

/-- A candidate is forgotten where the next token begins on another line. -/
theorem settle_awaiting {ts : List Token} {indents : List Int} {allowed ended : Bool} {us : List Token}
    (hindents : indents.headD (-1) < p.column) (hline : p.line < b.line) (hb : AtToken b) :
    (awaiting p ts indents allowed us b ended).skipBlank.dropStale = .ok (idle b (ts ++ us) indents ended) := by
  rw [skipBlank_blanks (n := 0) _ (Goes.refl b) hb]
  cases allowed
  · exact dropStale_of_none _ rfl
  · exact dropStale_line _ rfl (Nat.ne_of_lt hline) (decide_eq_false (Int.ne_of_lt hindents))

/-- So is one behind which the line ends. -/
theorem settle_line {ts : List Token} {indents : List Int} {allowed ended : Bool} {us : List Token} {k : Nat}
    (hindents : indents.headD (-1) < p.column) (hlines : p.line ≤ b.line) (hline : NextLine b k q) :
    (awaiting p ts indents allowed us b ended).skipBlank.dropStale = .ok (idle q (ts ++ us) indents true) := by
  rw [skipBlank_line _ hline]
  cases allowed
  · exact dropStale_of_none _ rfl
  · exact dropStale_line _ rfl (Nat.ne_of_lt (hlines.trans_lt hline.line)) (decide_eq_false (Int.ne_of_lt hindents))

/-- **A scalar at the end of its line is one token.** -/
theorem leads_scalar (ts : List Token) (indents : List Int) (allowed : Bool) {t : Token} {k : Nat} (h : IsScalar n w t)
    (hgoes : p.Goes w b) (hline : NextLine b k q) (hindents : indents.headD (-1) < p.column)
    (hk : k ≤ indents.headD (-1)) (hn : indents.headD (-1) < n) :
    Leads (idle p ts indents allowed) (idle q (ts ++ [t]) indents true) := by
  have hlines := line_le hgoes
  have hindex : p.index < q.index := by
    have := hgoes.index
    have := hline.index
    omega
  cases h with
  | single hhead hread =>
    obtain ⟨v, rfl⟩ := List.head?_eq_some_iff.1 hhead
    have hpeek : b.peek ≠ '\'' := by
      rw [hline.goes.peek]
      decide
    exact .of_token (token_quoted (d := false) hindents.le hgoes.rest (hread p b hgoes hpeek)) (settle_line hindents hlines hline) hindex
  | double hhead hread =>
    obtain ⟨v, rfl⟩ := List.head?_eq_some_iff.1 hhead
    exact .of_token (token_quoted (d := true) hindents.le hgoes.rest (hread p b hgoes)) (settle_line hindents hlines hline) hindex
  | @plain cs tail s hopens htail hread =>
    have hmore : (tail ++ b.rest).head? ≠ some '-' ∧ (tail ++ b.rest).head? ≠ some '.' := by
      cases tail with
      | nil => simp [hline.goes.rest]
      | cons c tail =>
        have hgap := htail c rfl
        constructor <;> intro hc <;> obtain rfl := Option.some.inj hc <;> exact absurd hgap (by decide)
    have hrest : p.rest = cs ++ (tail ++ b.rest) := by rw [hgoes.rest, List.append_assoc]
    have hend : EndsPlain (indents.headD (-1) + 1) b true q :=
      .line hline.goes (Int.lt_add_one_of_le hk) hline.token.stops
    have hplain := hread _ p b true q (Int.add_one_le_of_lt hn) (by omega) hgoes hend
    exact .of_token (token_plain hindents.le hopens hrest hmore hplain)
      (settle_awaiting hindents (hlines.trans_lt hline.line) hline.token) hindex

/-! ## Keys -/

theorem insertIdx_length {α : Type} (xs ys : List α) (x : α) : (xs ++ ys).insertIdx xs.length x = xs ++ x :: ys := by
  induction xs with
  | nil => rfl
  | cons y xs ih => exact congrArg (y :: ·) ih

/-- The colon makes a key of the scalar before it. -/
theorem colon_awaiting (p b : Place) (ts : List Token) (indents : List Int) (t : Token) (ended : Bool) :
    (awaiting p ts indents true [t] b ended).colon =
      .ok ((idle b ((enter ts indents p.column .blockMappingStart).1 ++ [.key, t])
        (enter ts indents p.column .blockMappingStart).2 false).take 1 .value) := by
  have hinsert (x : Token) (ys : List Token) :
      (ts ++ ys).toArray.insertIdxIfInBounds ts.length x = (ts ++ x :: ys).toArray := by
    rw [List.insertIdxIfInBounds_toArray, insertIdx_length]
  have hblock : (awaiting p ts indents true [t] b ended).colon =
      .ok (take ⟨b, (if indents.headD (-1) < p.column then
        ((ts ++ [t]).toArray.insertIdxIfInBounds ts.length .key).insertIdxIfInBounds ts.length .blockMappingStart
        else (ts ++ [t]).toArray.insertIdxIfInBounds ts.length .key),
        (if indents.headD (-1) < p.column then (p.column : Int) :: indents else indents), 0, false, []⟩ 1 .value) := by
    by_cases hopen : indents.headD (-1) < p.column
    · simp [colon, awaiting, openBlock, indent, candidate, -List.headD_eq_head?_getD, hopen]
      rfl
    · simp [colon, awaiting, openBlock, indent, candidate, -List.headD_eq_head?_getD, hopen]
      rfl
  rw [hblock]
  unfold enter
  split
  · rw [hinsert, hinsert]
    simp [idle]
  · rw [hinsert]
    rfl

theorem token_of_key {ts : List Token} {indents : List Int} {t : Token} (h : IsScalar n w t) (hgoes : p.Goes w b)
    (hcolon : b.rest = ':' :: c :: cs) (hgap : isGap c = true) (hindents : indents.headD (-1) ≤ p.column)
    (hn : indents.headD (-1) < n) :
    (idle p ts indents true).token = .ok (awaiting p ts indents true [t] b false, false) := by
  cases h with
  | single hhead hread =>
    obtain ⟨v, rfl⟩ := List.head?_eq_some_iff.1 hhead
    have hpeek : b.peek ≠ '\'' := by
      rw [Place.peek, hcolon, List.headD_cons]
      decide
    exact token_quoted (d := false) hindents hgoes.rest (hread p b hgoes hpeek)
  | double hhead hread =>
    obtain ⟨v, rfl⟩ := List.head?_eq_some_iff.1 hhead
    exact token_quoted (d := true) hindents hgoes.rest (hread p b hgoes)
  | @plain v tail s hopens htail hread =>
    have hmore : (tail ++ b.rest).head? ≠ some '-' ∧ (tail ++ b.rest).head? ≠ some '.' := by
      cases tail with
      | nil => simp [hcolon]
      | cons d tail =>
        have hd := htail d rfl
        constructor <;> intro hc <;> obtain rfl := Option.some.inj hc <;> exact absurd hd (by decide)
    have hrest : p.rest = v ++ (tail ++ b.rest) := by rw [hgoes.rest, List.append_assoc]
    exact token_plain hindents hopens hrest hmore
      (hread _ p b false b (Int.add_one_le_of_lt hn) (by omega) hgoes (.colon hcolon hgap))

/-- What stands behind the colon of a key: the value on the same line, or nothing. -/
inductive BehindColon : Place → Bool → Place → Prop
  | here {p q : Place} {k : Nat} : p.Goes (List.replicate (k + 1) ' ') q → AtToken q → BehindColon p false q
  | line {p q : Place} {k : Nat} : NextLine p k q → BehindColon p true q

/-- **A scalar on one line before a colon is a key**, and it begins a mapping if none has begun there. -/
theorem leads_key (ts : List Token) (indents : List Int) {allowed : Bool} {t : Token} {m : Place} (h : IsScalar n w t)
    (hgoes : p.Goes w b) (hw : ∀ c ∈ w, IsOneColumn c) (hne : w ≠ []) (hlength : w.length ≤ 1024) (hcolon : b.Goes [':'] m)
    (hbehind : BehindColon m allowed q) (hindents : indents.headD (-1) ≤ p.column) (hn : indents.headD (-1) < n) :
    Leads (idle p ts indents true)
      (idle q ((enter ts indents p.column .blockMappingStart).1 ++ [.key, t, .value])
        (enter ts indents p.column .blockMappingStart).2 allowed) := by
  obtain ⟨c, cs, hrest, hgap⟩ : ∃ c cs, m.rest = c :: cs ∧ isGap c = true := by
    cases hbehind with
    | here hm => exact ⟨_, _, hm.rest, rfl⟩
    | line hm => exact ⟨_, _, hm.goes.rest, rfl⟩
  have hb : b.rest = ':' :: c :: cs := by rw [hcolon.rest, hrest]; rfl
  obtain ⟨hline, hcolumn⟩ := hgoes.column hw
  have hindex := hgoes.index
  have hpos := List.length_pos_of_ne_nil hne
  have hfirst : Leads (idle p ts indents true) (awaiting p ts indents true [t] b false) := by
    refine .of_token (token_of_key h hgoes hb hgap hindents hn) ?_ (show p.index < b.index by omega)
    rw [skipBlank_blanks (n := 0) _ (Goes.refl b) (atToken_of_rest hb (by decide) (by decide) (by decide))]
    exact dropStale_fresh _ rfl hline.symm (show b.index ≤ p.index + 1024 by omega)
  have hdeep : (awaiting p ts indents true [t] b false).indent ≤ b.column := by
    change indents.headD (-1) ≤ _
    omega
  have htoken := (token_mark (s := awaiting p ts indents true [t] b false) hdeep rfl hb hgap).2.2 rfl
  rw [colon_awaiting] at htoken
  refine hfirst.trans (.of_token htoken ?_ ?_)
  · have hplace : ((idle b ((enter ts indents p.column .blockMappingStart).1 ++ [.key, t])
        (enter ts indents p.column .blockMappingStart).2 false).take 1 .value).place = m := hcolon.skip
    cases hbehind with
    | here hm hq =>
      rw [skipBlank_blanks _ (hplace ▸ hm) hq, dropStale_of_none _ rfl]
      simp [idle, take, add]
    | line hm =>
      rw [skipBlank_line _ (hplace ▸ hm), dropStale_of_none _ rfl]
      simp [idle, take, add]
  · have hm := hcolon.index
    change b.index < q.index
    cases hbehind with
    | here hm' => rw [hm'.index, hm]; simp; omega
    | line hm' =>
      have := hm'.index
      rw [hm] at this
      simp at this
      omega

/-! ## Empty collections -/

/-- The brackets of an empty collection, and their tokens. -/
inductive Brackets : Char → Char → Token → Token → Prop
  | sequence : Brackets '[' ']' .flowSequenceStart .flowSequenceEnd
  | mapping : Brackets '\x7b' '\x7d' .flowMappingStart .flowMappingEnd

/-- The state within brackets that begin at a place. -/
def bracketed (p : Place) (ts : List Token) (indents : List Int) (allowed : Bool) (start : Token) : Cutter :=
  ⟨p.step, (ts ++ [start]).toArray, indents, 1, true, if allowed then [(0, candidate p ts indents)] else []⟩

variable {l r : Char} {start stop : Token}

theorem token_open {ts : List Token} {indents : List Int} {allowed : Bool} (hb : Brackets l r start stop)
    (hindents : indents.headD (-1) ≤ p.column) (hrest : p.rest = l :: cs) :
    (idle p ts indents allowed).token = .ok (bracketed p ts indents allowed start, false) := by
  have hpeek : p.peek = l := by rw [Place.peek, hrest]; rfl
  have hempty : p.rest.isEmpty = false := by rw [hrest]; rfl
  have hs : (idle p ts indents allowed).unwind p.column = idle p ts indents allowed := unwind_of_le hindents
  have hwhole : (idle p ts indents allowed).token = ((idle p ts indents allowed).saveCandidate.bind fun s =>
      .ok ({ s with flowDepth := s.flowDepth + 1, keyAllowed := true }.take 1 start)).bind fun s => .ok (s, false) := by
    unfold token
    cases hb <;>
      simp only [show (idle p ts indents allowed).place = p from rfl, hs, hpeek, hempty, Char.reduceEq, decide_false,
        decide_true, Bool.false_and, Bool.or_false, Bool.or_true, Bool.false_eq_true,
        if_false, if_true] <;> rfl
  rw [hwhole, saveCandidate_idle]
  simp [Except.bind, bracketed, idle, take, add, skip]

theorem token_close {ts : List Token} {indents : List Int} {allowed : Bool} (hb : Brackets l r start stop)
    (hrest : p.step.rest = r :: cs) :
    (bracketed p ts indents allowed start).token =
      .ok (awaiting p ts indents allowed [start, stop] p.step.step false, false) := by
  have hpeek : p.step.peek = r := by rw [Place.peek, hrest]; rfl
  have hempty : p.step.rest.isEmpty = false := by rw [hrest]; rfl
  have hs : (bracketed p ts indents allowed start).unwind p.step.column = bracketed p ts indents allowed start := rfl
  have hdrop : (bracketed p ts indents allowed start).dropCandidate = .ok (bracketed p ts indents allowed start) := by
    cases allowed <;> rfl
  have hwhole : (bracketed p ts indents allowed start).token =
      ((bracketed p ts indents allowed start).dropCandidate.bind fun s =>
      .ok ({ s with flowDepth := s.flowDepth - 1, keyAllowed := false }.take 1 stop)).bind fun s => .ok (s, false) := by
    unfold token
    cases hb <;>
      simp only [show (bracketed p ts indents allowed _).place = p.step from rfl,
        show (bracketed p ts indents allowed _).flowDepth = 1 from rfl, hs, hpeek, hempty, Char.reduceEq, decide_false,
        decide_true, Bool.false_and, Bool.or_false, Bool.or_true, Bool.false_eq_true,
        if_false, if_true] <;> rfl
  rw [hwhole, hdrop]
  simp [Except.bind, bracketed, awaiting, take, add, skip]

/-- **An empty collection at the end of its line is two tokens.** -/
theorem leads_brackets (ts : List Token) (indents : List Int) (allowed : Bool) {k : Nat} (hb : Brackets l r start stop)
    (hgoes : p.Goes [l, r] b) (hline : NextLine b k q) (hindents : indents.headD (-1) < p.column) :
    Leads (idle p ts indents allowed) (idle q (ts ++ [start, stop]) indents true) := by
  have hclose : p.step.rest = r :: b.rest := hgoes.cons.rest
  have hone : IsOneColumn l := by cases hb <;> exact ⟨by decide, by decide⟩
  have htoken : AtToken p.step := by
    cases hb <;> exact atToken_of_rest hclose (by decide) (by decide) (by decide)
  have hindex := index_step hgoes.rest
  have hfirst : Leads (idle p ts indents allowed) (bracketed p ts indents allowed start) := by
    refine .of_token (token_open hb hindents.le hgoes.rest) ?_ (show p.index < p.step.index by omega)
    rw [skipBlank_blanks (n := 0) _ (Goes.refl p.step) htoken]
    cases allowed
    · exact dropStale_of_none _ rfl
    · exact dropStale_fresh _ rfl (step_oneColumn hgoes.rest hone).1.symm (show p.step.index ≤ p.index + 1024 by omega)
  have hb' : p.step.step = b := hgoes.skip
  refine hfirst.trans (.of_token (token_close hb hclose) (settle_line hindents ?_ (hb' ▸ hline)) ?_)
  · rw [hb']
    exact line_le hgoes
  · have := hline.index
    have := hgoes.index
    simp at this
    change p.step.index < q.index
    omega

/-! ## Whole texts -/

/-- At the end of the text the outermost block ends. -/
theorem resume_end {ts : List Token} {fuel : Nat} (hrest : p.rest = []) (hcolumn : p.column = 0) :
    resume fuel (idle p ts [0] true) = .ok (ts ++ [Token.blockEnd, Token.streamEnd]).toArray := by
  have hempty : p.rest.isEmpty = true := by rw [hrest]; rfl
  have hs : (idle p ts [0] true).unwind p.column = idle p ts [0] true := by
    rw [hcolumn]
    rfl
  have hclose : (idle p ts [0] true).closeAll = .ok (idle p (ts ++ [.blockEnd]) [] false) := by
    have hunwind : (idle p ts [0] true).unwind (-1) = idle p (ts ++ [.blockEnd]) [] true := by
      simp [unwind, unwindLoop, idle, indent, add]
    rw [closeAll, hunwind]
    rfl
  have htoken : (idle p ts [0] true).token =
      .ok ({ (idle p (ts ++ [.blockEnd]) [] false).add .streamEnd with candidates := [] }, true) := by
    unfold token
    simp only [show (idle p ts [0] true).place = p from rfl, hs, hempty, if_true, hclose]
    rfl
  rw [resume, htoken]
  simp [idle, add, bind, Except.bind, pure, Except.pure]

end Cutter

/-- **The tokens of a text** that leads from its start to its end, one mapping being open there. -/
theorem tokensOf_of_leads {text : String} {ts : List Token} (hallowed : ∀ c ∈ text.toList, isAllowed c = true)
    (hstart : AtToken ⟨text.toList, 0, 0, 0⟩) (hgoes : Place.Goes ⟨text.toList, 0, 0, 0⟩ text.toList q)
    (hcolumn : q.column = 0) (hleads : Cutter.Leads (Cutter.idle ⟨text.toList, 0, 0, 0⟩ [] [] true) (Cutter.idle q ts [0] true)) :
    tokensOf text = .ok (ts ++ [.blockEnd, .streamEnd]) := by
  have hrest : q.rest = [] := List.append_right_eq_self.1 hgoes.rest.symm
  obtain ⟨k, hk, hresume⟩ := hleads
  have hindex : k ≤ text.toList.length := by
    have := hgoes.index
    change 0 + k ≤ q.index at hk
    change q.index = 0 + text.toList.length at this
    omega
  have hcut : cutLoop (text.toList.length + 2) (Cutter.idle ⟨text.toList, 0, 0, 0⟩ [] [] true) =
      .ok (ts ++ [Token.blockEnd, Token.streamEnd]).toArray := by
    rw [Cutter.cutLoop_succ, Cutter.skipBlank_blanks (n := 0) _ (Goes.refl _) hstart, Cutter.dropStale_of_none _ rfl]
    have hfuel : text.toList.length + 1 = text.toList.length + 1 - k + k := by omega
    change Cutter.resume (text.toList.length + 1) (Cutter.idle ⟨text.toList, 0, 0, 0⟩ [] [] true) = _
    rw [hfuel, hresume, Cutter.resume_end hrest hcolumn]
  rw [tokensOf, if_pos (List.all_eq_true.2 hallowed)]
  change (cutLoop _ (Cutter.idle _ [] [] true)).bind _ = _
  rw [hcut]
  rfl

end Stepwise.Document
