import Stepwise.Document.Token
/-!
# Going through the text of a document

`Place.Goes p cs q` says that the text `cs` stands at `p` and that `q` is the place behind it. The readers
of tokens are described by it: what stands there, what they make of it, and where they stop.
-/

namespace Stepwise.Document

namespace Place

/-- The text stands at the first place, and the second place is behind it. -/
structure Goes (p : Place) (cs : List Char) (q : Place) : Prop where
  rest : p.rest = cs ++ q.rest
  skip : p.skip cs.length = q

variable {p q r : Place} {a b cs : List Char} {c : Char}

theorem rest_step (h : p.rest = c :: cs) : p.step.rest = cs := by
  rw [step, h]
  dsimp only
  split <;> rfl

theorem index_step (h : p.rest = c :: cs) : p.step.index = p.index + 1 := by
  rw [step, h]
  dsimp only
  split <;> rfl

theorem skip_add (p : Place) (m n : Nat) : p.skip (m + n) = (p.skip m).skip n := by
  induction m generalizing p with
  | zero => rw [Nat.zero_add, skip]
  | succ m ih => rw [Nat.succ_add, skip, skip, ih]

theorem rest_skip (h : p.rest = a ++ b) : (p.skip a.length).rest = b := by
  induction a generalizing p with
  | nil => exact h
  | cons c a ih => exact ih (rest_step h)

/-- Whatever text stands at a place can be gone through. -/
theorem goes_skip (h : p.rest = a ++ b) : p.Goes a (p.skip a.length) :=
  ⟨by rw [rest_skip h, h], rfl⟩

/-- Every text stands somewhere with nothing behind it. -/
theorem exists_text (w : List Char) : ∃ a b : Place, a.Goes w b ∧ b.rest = [] := by
  have hrest : (⟨w, 0, 0, 0⟩ : Place).rest = w ++ [] := (List.append_nil w).symm
  exact ⟨_, _, goes_skip hrest, rest_skip hrest⟩

namespace Goes

theorem refl (p : Place) : p.Goes [] p := ⟨rfl, rfl⟩

theorem trans (h : p.Goes a q) (h' : q.Goes b r) : p.Goes (a ++ b) r :=
  ⟨by rw [h.rest, h'.rest, List.append_assoc], by rw [List.length_append, skip_add, h.skip, h'.skip]⟩

theorem step (h : p.rest = c :: cs) : p.Goes [c] p.step :=
  ⟨by rw [rest_step h, h]; rfl, rfl⟩

/-- The place behind a text is the only one. -/
theorem unique (h : p.Goes a q) (h' : p.Goes a r) : q = r := by rw [← h.skip, h'.skip]

theorem eq_step (h : p.Goes [c] q) : q = p.step := h.unique (.step h.rest)

/-- The way through a text leads past every part of it. -/
theorem split (h : p.Goes (a ++ b) r) : ∃ q, p.Goes a q ∧ q.Goes b r := by
  have hrest : p.rest = a ++ (b ++ r.rest) := by rw [h.rest, List.append_assoc]
  refine ⟨p.skip a.length, goes_skip hrest, ⟨rest_skip hrest, ?_⟩⟩
  rw [← skip_add, ← List.length_append, h.skip]

theorem cons (h : p.Goes (c :: cs) r) : p.step.Goes cs r := by
  obtain ⟨q, hq, hr⟩ := (split h : ∃ q, p.Goes [c] q ∧ q.Goes cs r)
  rwa [hq.eq_step] at hr

theorem peek (h : p.Goes (c :: cs) q) : p.peek = c := by
  rw [Place.peek, h.rest]
  rfl

theorem index (h : p.Goes cs q) : q.index = p.index + cs.length := by
  induction cs generalizing p with
  | nil => rw [← h.skip]; rfl
  | cons c cs ih =>
    rw [ih h.cons, index_step h.rest, List.length_cons]
    omega

theorem length_rest (h : p.Goes cs q) : p.rest.length = cs.length + q.rest.length := by
  rw [h.rest, List.length_append]

end Goes

/-! ## Columns and lines -/

/-- A character that stands on its line and takes one column of it. -/
def IsOneColumn (c : Char) : Prop := isBreak c = false ∧ c.toNat ≠ 0xfeff

theorem step_oneColumn (h : p.rest = c :: cs) (hc : IsOneColumn c) :
    p.step.line = p.line ∧ p.step.column = p.column + 1 := by
  have hr : c ≠ '\r' := by
    rintro rfl
    exact absurd hc.1 (by decide)
  rw [Place.step, h]
  simp only [hc.1, hr, hc.2, Bool.false_and, decide_false, Bool.or_self, Bool.false_eq_true, if_false,
    and_self]

/-- Such characters lead along the line. -/
theorem Goes.column (h : p.Goes cs q) (hcs : ∀ c ∈ cs, IsOneColumn c) :
    q.line = p.line ∧ q.column = p.column + cs.length := by
  induction cs generalizing p with
  | nil =>
    rw [← h.skip]
    exact ⟨rfl, rfl⟩
  | cons c cs ih =>
    obtain ⟨hline, hcolumn⟩ := step_oneColumn h.rest (hcs c List.mem_cons_self)
    obtain ⟨hline', hcolumn'⟩ := ih h.cons fun d hd => hcs d (List.mem_cons_of_mem _ hd)
    rw [hline', hcolumn', hline, hcolumn, List.length_cons]
    exact ⟨rfl, by omega⟩

/-- Behind the end of a line stands the first column. -/
theorem Goes.column_newline (h : p.Goes ['\n'] q) : q.column = 0 := by
  rw [h.eq_step, Place.step, h.rest]
  rfl

/-! ## Reading runs of characters -/

/-- The text at the place does not begin with such a character. -/
def Stops (p : Place) (f : Char → Bool) : Prop := ∀ c cs, p.rest = c :: cs → f c = false

theorem Goes.span {f : Char → Bool} (h : p.Goes cs q) (hcs : ∀ c ∈ cs, f c = true) (hq : q.Stops f) :
    p.span f = (cs, q) := by
  have hrun : p.rest.takeWhile f = cs := by
    rw [h.rest, List.takeWhile_append_of_pos hcs]
    cases hr : q.rest with
    | nil => rw [List.takeWhile_nil, List.append_nil]
    | cons c r => rw [List.takeWhile_cons, hq c r hr, if_neg Bool.false_ne_true, List.append_nil]
  rw [Place.span, hrun, h.skip]

theorem Goes.skipWhile {f : Char → Bool} (h : p.Goes cs q) (hcs : ∀ c ∈ cs, f c = true) (hq : q.Stops f) :
    p.skipWhile f = q := by
  rw [Place.skipWhile, h.span hcs hq]

/-- Every text begins with a run of characters with a property, up to one without it. -/
theorem exists_run (f : Char → Bool) (cs : List Char) :
    ∃ run rest, cs = run ++ rest ∧ (∀ c ∈ run, f c = true) ∧
      (rest = [] ∨ ∃ c r, rest = c :: r ∧ f c = false) := by
  induction cs with
  | nil => exact ⟨[], [], rfl, List.forall_mem_nil _, .inl rfl⟩
  | cons c cs ih =>
    cases hc : f c with
    | false => exact ⟨[], c :: cs, rfl, List.forall_mem_nil _, .inr ⟨c, cs, rfl, hc⟩⟩
    | true =>
      obtain ⟨run, rest, rfl, hrun, hrest⟩ := ih
      refine ⟨c :: run, rest, rfl, fun d hd => ?_, hrest⟩
      rcases List.mem_cons.1 hd with rfl | hd
      · exact hc
      · exact hrun d hd

/-- What a line end is read as: the separators of lines and paragraphs stay what they are. -/
def readBreak (c : Char) : Char := if c = '\n' ∨ c.toNat = 0x85 then '\n' else c

theorem Goes.lineBreak (h : p.Goes [c] q) (hc : isBreak c = true) (hr : c ≠ '\r') :
    p.lineBreak = ([readBreak c], q) := by
  have hrest : p.rest = c :: q.rest := h.rest
  rw [Place.lineBreak, hrest]
  split
  case h_1 heq =>
    injection heq with h₁ _
    exact absurd h₁ hr
  case h_2 d r _ heq =>
    injection heq with h₁ _
    subst h₁
    by_cases hn : c = '\n' ∨ c.toNat = 0x85
    · have hcond : (c = '\n' || c = '\r' || c.toNat = 0x85) = true := by
        rcases hn with hn | hn <;> simp [hn]
      rw [if_pos hcond, readBreak, if_pos hn, h.eq_step]
    · rw [not_or] at hn
      have hcond : (c = '\n' || c = '\r' || c.toNat = 0x85) = false := by simp [hn, hr]
      rw [if_neg (by rw [hcond]; exact Bool.false_ne_true), if_pos hc, readBreak, if_neg (not_or.2 hn), h.eq_step]
  case h_3 heq => cases heq

/-- Where a line begins with something else, it does not separate documents. -/
theorem atMarker_of_head (h : p.rest = c :: cs) (hd : c ≠ '-') (hp : c ≠ '.') : p.atMarker = false := by
  rw [atMarker, h]
  split
  case h_1 heq =>
    injection heq with h₁ _
    exact absurd h₁ hd
  case h_2 heq =>
    injection heq with h₁ _
    exact absurd h₁ hp
  case h_3 => rfl

end Place

end Stepwise.Document
