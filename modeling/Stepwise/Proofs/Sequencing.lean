import Stepwise.Proofs.Calling
import Stepwise.Proofs.Dispatch
import Stepwise.Proofs.Frames
/-!
# Statements one after the other

`StatementsEnd` says how statements end, however many steps that takes. The statements of two lists are run in turn
(`statementsEnd_append`): those of the second begin exactly where those of the first have come to their end, in the same
scope. For a script of two parts `ScriptEngine.parts_in_turn` puts this together with the way a step ends and with the
meaning of the names that neither part binds. That is the same for every script, but for one name: `run_step` is the
script itself, so that a part that calls it does more together with another part than alone.
-/

namespace Stepwise

namespace Script

variable {s s' : State} {w w' w'' : World} {home σ : Addr} {rest : List Stmt} {m : Machine} {t : Thread}

/-! ## How statements end -/

/-- How statements end. -/
inductive Outcome where
  /-- All of them have been run. -/
  | through
  /-- They were left on the way, with a value. -/
  | left (v : Value)
  /-- They handed out a value, and wait. -/
  | waiting (v : Value)
  | failed (f : Failure)

/-- After so many steps the statements end so. -/
inductive EndsIn (m : Machine) (t : Thread) : Nat → State → World → Outcome → World → Prop
  | through (σ : Addr) (w : World) : EndsIn m t 0 ⟨.done, [], σ⟩ w .through w
  | left {s : State} {v : Value} {w w' : World} : (∀ σ, s ≠ ⟨.done, [], σ⟩) →
    (step m s).actIn t w = .ok (.inr (.finished v)) w' → EndsIn m t 0 s w (.left v) w'
  | waiting {s r : State} {v : Value} {w w' : World} : (step m s).actIn t w = .ok (.inr (.yielded v r)) w' →
    EndsIn m t 0 s w (.waiting v) w'
  | failed {s : State} {f : Failure} {w w' : World} : (step m s).actIn t w = .error f w' →
    EndsIn m t 0 s w (.failed f) w'
  | more {n : Nat} {s s' : State} {o : Outcome} {w w' w'' : World} : Leads m t s w s' w' →
    EndsIn m t n s' w' o w'' → EndsIn m t (n + 1) s w o w''

/-- So a state ends, however many steps that takes. -/
def Ends (m : Machine) (t : Thread) (s : State) (w : World) (o : Outcome) (w' : World) : Prop :=
  ∃ n, EndsIn m t n s w o w'

variable {o : Outcome} {n : Nat} {v : Value} {r : State} {f : Failure}

theorem EndsIn.of_leads (h : EndsIn m t n s w o w'') (hl : Leads m t s w s' w') :
    ∃ k, k < n ∧ EndsIn m t k s' w' o w'' := by
  cases h with
  | through => nomatch hl
  | left _ hstep => cases hl.symm.trans hstep
  | waiting hstep => cases hl.symm.trans hstep
  | failed hstep => cases hl.symm.trans hstep
  | more hl' h =>
    cases hl.symm.trans hl'
    exact ⟨_, Nat.lt_succ_self _, h⟩

theorem ends_iff_of_leads (hl : Leads m t s w s' w') : Ends m t s w o w'' ↔ Ends m t s' w' o w'' := by
  refine ⟨fun ⟨n, h⟩ => ?_, fun ⟨n, h⟩ => ⟨n + 1, .more hl h⟩⟩
  obtain ⟨k, -, h⟩ := h.of_leads hl
  exact ⟨k, h⟩

theorem ends_iff_of_yielded (hy : (step m s).actIn t w = .ok (.inr (.yielded v r)) w') :
    Ends m t s w o w'' ↔ o = .waiting v ∧ w'' = w' := by
  refine ⟨fun ⟨n, h⟩ => ?_, ?_⟩
  · cases h with
    | through => nomatch hy
    | left _ hstep => cases hy.symm.trans hstep
    | waiting hstep =>
      cases hy.symm.trans hstep
      exact ⟨rfl, rfl⟩
    | failed hstep => cases hy.symm.trans hstep
    | more hl => cases hy.symm.trans hl
  · rintro ⟨rfl, rfl⟩
    exact ⟨0, .waiting hy⟩

theorem ends_iff_of_failed (hf : (step m s).actIn t w = .error f w') :
    Ends m t s w o w'' ↔ o = .failed f ∧ w'' = w' := by
  refine ⟨fun ⟨n, h⟩ => ?_, ?_⟩
  · cases h with
    | through => nomatch hf
    | left _ hstep => cases hf.symm.trans hstep
    | waiting hstep => cases hf.symm.trans hstep
    | failed hstep =>
      cases hf.symm.trans hstep
      exact ⟨rfl, rfl⟩
    | more hl => cases hf.symm.trans hl
  · rintro ⟨rfl, rfl⟩
    exact ⟨0, .failed hf⟩

theorem ends_done_iff : Ends m t ⟨.done, [], σ⟩ w o w'' ↔ o = .through ∧ w'' = w := by
  refine ⟨fun ⟨n, h⟩ => ?_, ?_⟩
  · cases h with
    | through => exact ⟨rfl, rfl⟩
    | left hdone => exact absurd rfl (hdone σ)
    | waiting hstep => nomatch hstep
    | failed hstep => nomatch hstep
    | more hl => nomatch hl
  · rintro ⟨rfl, rfl⟩
    exact ⟨0, .through σ _⟩

/-- The statements end so in the scope. -/
def StatementsEnd (m : Machine) (t : Thread) (σ : Addr) (ss : List Stmt) (w : World) (o : Outcome) (w' : World) :
    Prop := Ends m t ⟨.exec ss, [], σ⟩ w o w'

theorem statementsEnd_nil_iff : StatementsEnd m t σ [] w o w'' ↔ o = .through ∧ w'' = w := by
  have hl : Leads m t ⟨.exec [], [], σ⟩ w ⟨.done, [], σ⟩ w := rfl
  exact (ends_iff_of_leads hl).trans ends_done_iff

/-! ## One end after the other -/

/-- The end is the second one, from where the first is through, or the first, which is not. -/
def InTurn (first second : World → Outcome → World → Prop) (w : World) (o : Outcome) (w'' : World) : Prop :=
  (∃ w', first w .through w' ∧ second w' o w'') ∨ o ≠ .through ∧ first w o w''

/-- Ends are the same if they are the same from every world. -/
theorem ends_ext {x y : World → Outcome → World → Prop} (h : ∀ w o w'', x w o w'' ↔ y w o w'') : x = y :=
  funext fun w => funext fun o => funext fun w'' => propext (h w o w'')

theorem inTurn_assoc (x y z : World → Outcome → World → Prop) : InTurn (InTurn x y) z = InTurn x (InTurn y z) := by
  refine ends_ext fun w o w'' => ⟨?_, ?_⟩
  · rintro (⟨w', ⟨left, hx, hy⟩ | ⟨hno, -⟩, hz⟩ | ⟨hnot, ⟨left, hx, hy⟩ | ⟨-, hx⟩⟩)
    · exact .inl ⟨left, hx, .inl ⟨w', hy, hz⟩⟩
    · exact absurd rfl hno
    · exact .inl ⟨left, hx, .inr ⟨hnot, hy⟩⟩
    · exact .inr ⟨hnot, hx⟩
  · rintro (⟨left, hx, ⟨w', hy, hz⟩ | ⟨hnot, hy⟩⟩ | ⟨hnot, hx⟩)
    · exact .inl ⟨w', .inl ⟨left, hx, hy⟩, hz⟩
    · exact .inr ⟨hnot, .inl ⟨left, hx, hy⟩⟩
    · exact .inr ⟨hnot, .inr ⟨hnot, hx⟩⟩

/-- Nothing is done in front of the statements. -/
theorem inTurn_nil_left (y : World → Outcome → World → Prop) : InTurn (StatementsEnd m t σ []) y = y := by
  refine ends_ext fun w o w'' => ⟨?_, fun h => .inl ⟨w, statementsEnd_nil_iff.2 ⟨rfl, rfl⟩, h⟩⟩
  rintro (⟨w', hnil, h⟩ | ⟨hnot, hnil⟩)
  · obtain ⟨-, rfl⟩ := statementsEnd_nil_iff.1 hnil
    exact h
  · exact absurd (statementsEnd_nil_iff.1 hnil).1 hnot

/-- Nothing is done behind the statements. -/
theorem inTurn_nil_right (x : World → Outcome → World → Prop) : InTurn x (StatementsEnd m t σ []) = x := by
  refine ends_ext fun w o w'' => ⟨?_, fun h => ?_⟩
  · rintro (⟨w', hthrough, hnil⟩ | ⟨-, h⟩)
    · obtain ⟨rfl, rfl⟩ := statementsEnd_nil_iff.1 hnil
      exact hthrough
    · exact h
  · by_cases ho : o = .through
    · exact .inl ⟨w'', ho ▸ h, statementsEnd_nil_iff.2 ⟨ho, rfl⟩⟩
    · exact .inr ⟨ho, h⟩

/-! ## Statements that follow -/

/-- The statements that follow begin where those before them have come to their end. -/
theorem ends_rest_iff (rest : List Stmt) :
    Ends m t (State.before rest ⟨.done, [], σ⟩) w o w'' ↔ StatementsEnd m t σ rest w o w'' := by
  cases rest with
  | nil =>
    have hl : Leads m t (State.before [] ⟨.done, [], σ⟩) w ⟨.done, [], σ⟩ w := rfl
    exact (ends_iff_of_leads hl).trans (ends_done_iff.trans statementsEnd_nil_iff.symm)
  | cons st rest =>
    have hl : Leads m t (State.before (st :: rest) ⟨.done, [], σ⟩) w ⟨.exec (st :: rest), [], σ⟩ w := rfl
    exact ends_iff_of_leads hl

/-- A way out passes the statements that follow. -/
theorem leads_exit (why : Exit) (rest : List Stmt) (σ : Addr) (w : World) :
    Leads m t ⟨.exit why, [.seq rest], σ⟩ w ⟨.exit why, [], σ⟩ w := rfl

theorem not_through_of_exit {why : Exit} (h : Ends m t ⟨.exit why, [], σ⟩ w o w'') : o ≠ .through := by
  obtain ⟨n, h⟩ := h
  cases why with
  | raised e =>
    have hf : (step m ⟨.exit (.raised e), [], σ⟩).actIn t w = .error (.raised e) w := rfl
    obtain ⟨rfl, -⟩ := (ends_iff_of_failed hf).1 ⟨n, h⟩
    exact nofun
  | _ =>
    cases h with
    | left => exact nofun
    | waiting => exact nofun
    | failed => exact nofun
    | more hl => nomatch hl

/-- An error that passes the statements that follow ends the run. -/
theorem ends_raised_iff (e : Addr) (rest : List Stmt) :
    Ends m t ⟨.exit (.raised e), [.seq rest], σ⟩ w o w'' ↔ o = .failed (.raised e) ∧ w'' = w := by
  have hf : (step m ⟨.exit (.raised e), [], σ⟩).actIn t w = .error (.raised e) w := rfl
  exact (ends_iff_of_leads (leads_exit _ rest σ w)).trans (ends_iff_of_failed hf)

theorem leads_before (h : s.Fits home) (hl : Leads m t s w s' w') (rest : List Stmt) :
    s'.Fits home ∧ Leads m t (s.before rest) w (s'.before rest) w' := by
  have hgoes : s.atEnd = false := by
    refine Bool.eq_false_iff.2 fun hend => ?_
    obtain rfl | ⟨why, rfl⟩ := atEnd_cases h hend
    · nomatch hl
    · cases why <;> nomatch hl
  cases steps_alike m t h hgoes rest w with
  | leads hl' hfits hbefore =>
    cases hl.symm.trans hl'
    exact ⟨hfits, hbefore⟩
  | yielded hy => cases hl.symm.trans hy
  | raised hf => cases hl.symm.trans hf
  | exhausted hf => cases hl.symm.trans hf

theorem ends_before_of_through (h : s.Fits home) (hthrough : EndsIn m t n s w .through w')
    (hrest : StatementsEnd m t home rest w' o w'') : Ends m t (s.before rest) w o w'' := by
  induction n generalizing s w with
  | zero =>
    cases hthrough
    obtain ⟨-, rfl⟩ := h
    exact (ends_rest_iff rest).2 hrest
  | succ n ih =>
    cases hthrough with
    | more hl hthrough =>
      obtain ⟨hfits, hbefore⟩ := leads_before h hl rest
      exact (ends_iff_of_leads hbefore).2 (ih hfits hthrough)

theorem ends_before_of_not_through (h : s.Fits home) (hnot : o ≠ .through) (hends : EndsIn m t n s w o w') :
    Ends m t (s.before rest) w o w' := by
  induction n generalizing s w with
  | zero =>
    -- the next step is the last one, here and, behind a way out, with the statements that follow
    by_cases hend : s.atEnd = true
    · obtain rfl | ⟨why, rfl⟩ := atEnd_cases h hend
      · exact absurd (ends_done_iff.1 ⟨0, hends⟩).1 hnot
      · exact (ends_iff_of_leads (leads_exit why rest home w)).2 ⟨0, hends⟩
    · cases steps_alike m t h (Bool.eq_false_iff.2 hend) rest w with
      | leads hl =>
        obtain ⟨_, hlt, -⟩ := hends.of_leads hl
        exact absurd hlt (Nat.not_lt_zero _)
      | yielded hy hbefore => exact (ends_iff_of_yielded hbefore).2 ((ends_iff_of_yielded hy).1 ⟨0, hends⟩)
      | raised hf hbefore =>
        exact (ends_iff_of_leads hbefore).2 ((ends_raised_iff _ rest).2 ((ends_iff_of_failed hf).1 ⟨0, hends⟩))
      | exhausted hf hbefore => exact (ends_iff_of_failed hbefore).2 ((ends_iff_of_failed hf).1 ⟨0, hends⟩)
  | succ n ih =>
    cases hends with
    | more hl hends =>
      obtain ⟨hfits, hbefore⟩ := leads_before h hl rest
      exact (ends_iff_of_leads hbefore).2 (ih hfits hends)

theorem inTurn_of_before (h : s.Fits home) (hends : EndsIn m t n (s.before rest) w o w'') :
    InTurn (Ends m t s) (StatementsEnd m t home rest) w o w'' := by
  -- the count is that of the state with the statements that follow: it goes down with every step of either state
  induction n using Nat.strongRecOn generalizing s w with
  | _ n ih =>
  by_cases hend : s.atEnd = true
  · obtain rfl | ⟨why, rfl⟩ := atEnd_cases h hend
    · exact .inl ⟨w, ends_done_iff.2 ⟨rfl, rfl⟩, (ends_rest_iff rest).1 ⟨n, hends⟩⟩
    · have hleft := (ends_iff_of_leads (leads_exit why rest home w)).1 ⟨n, hends⟩
      exact .inr ⟨not_through_of_exit hleft, hleft⟩
  · cases steps_alike m t h (Bool.eq_false_iff.2 hend) rest w with
    | leads hl hfits hbefore =>
      obtain ⟨k, hk, hends⟩ := hends.of_leads hbefore
      obtain ⟨left, hthrough, hrest⟩ | ⟨hnot, hstops⟩ := ih k hk hfits hends
      · exact .inl ⟨left, (ends_iff_of_leads hl).2 hthrough, hrest⟩
      · exact .inr ⟨hnot, (ends_iff_of_leads hl).2 hstops⟩
    | yielded hy hbefore =>
      obtain ⟨rfl, rfl⟩ := (ends_iff_of_yielded hbefore).1 ⟨n, hends⟩
      exact .inr ⟨nofun, (ends_iff_of_yielded hy).2 ⟨rfl, rfl⟩⟩
    | raised hf hbefore =>
      obtain ⟨rfl, rfl⟩ := (ends_raised_iff _ rest).1 ((ends_iff_of_leads hbefore).1 ⟨n, hends⟩)
      exact .inr ⟨nofun, (ends_iff_of_failed hf).2 ⟨rfl, rfl⟩⟩
    | exhausted hf hbefore =>
      obtain ⟨rfl, rfl⟩ := (ends_iff_of_failed hbefore).1 ⟨n, hends⟩
      exact .inr ⟨nofun, (ends_iff_of_failed hf).2 ⟨rfl, rfl⟩⟩

/-- **Statements that follow are run where those before them have come to their end**, and only there. -/
theorem ends_before_iff (h : s.Fits home) :
    Ends m t (s.before rest) w o w'' ↔ InTurn (Ends m t s) (StatementsEnd m t home rest) w o w'' := by
  refine ⟨fun ⟨n, hends⟩ => inTurn_of_before h hends, ?_⟩
  rintro (⟨w', ⟨n, hthrough⟩, hrest⟩ | ⟨hnot, n, hends⟩)
  · exact ends_before_of_through h hthrough hrest
  · exact ends_before_of_not_through h hnot hends

/-! ## Two lists of statements -/

/-- A statement takes no notice of the statements that its state was given. -/
theorem execStep_control (c c' : Control) (stack : List Frame) (σ : Addr) (st : Stmt) :
    execStep m (perform m) ⟨c, stack, σ⟩ st = execStep m (perform m) ⟨c', stack, σ⟩ st := by
  cases st with
  | function line id sig defaults keywordDefaults annotations decorators body =>
    simp only [execStep]
    generalize decorators ++ defaults ++ _ ++ _ = es
    cases es <;> rfl
  | classDef line id bases decorators body =>
    simp only [execStep]
    generalize decorators ++ _ = es
    cases es <;> rfl
  | _ => rfl

/-- States with the same next step end the same. -/
theorem Ends.congr {r : State} (hr : ∀ σ, r ≠ ⟨.done, [], σ⟩) (hs : ∀ σ, s ≠ ⟨.done, [], σ⟩)
    (h : (step m s).actIn t w = (step m r).actIn t w) (hends : Ends m t s w o w'') : Ends m t r w o w'' := by
  obtain ⟨n, hends⟩ := hends
  cases hends with
  | through => exact absurd rfl (hs _)
  | left _ hstep => exact ⟨0, .left hr (h ▸ hstep)⟩
  | waiting hstep => exact ⟨0, .waiting (h ▸ hstep)⟩
  | failed hstep => exact ⟨0, .failed (h ▸ hstep)⟩
  | more hl hends => exact (ends_iff_of_leads (h.symm.trans hl)).2 ⟨_, hends⟩

/-- The first of several statements is run as if it were alone, with the others behind it. -/
theorem ends_first_iff (st st' : Stmt) (rest : List Stmt) : StatementsEnd m t σ (st :: st' :: rest) w o w'' ↔
    Ends m t (State.before (st' :: rest) ⟨.exec [st], [], σ⟩) w o w'' := by
  have htry : tryStep m ⟨.exec (st :: st' :: rest), [], σ⟩ =
      tryStep m (State.before (st' :: rest) ⟨.exec [st], [], σ⟩) := execStep_control _ _ _ _ _
  have hstep := step_actIn m ⟨.exec (st :: st' :: rest), [], σ⟩ t w
  have hbefore := step_actIn m (State.before (st' :: rest) ⟨.exec [st], [], σ⟩) t w
  rw [htry] at hstep
  rcases hact : (tryStep m (State.before (st' :: rest) ⟨.exec [st], [], σ⟩)).actIn t w with ⟨r, w'⟩ | ⟨e | _, w'⟩
  all_goals rw [hact] at hstep hbefore
  case error.raised =>
    -- an error ends the statements here, and passes those that follow there
    exact (ends_iff_of_failed hstep).trans ((ends_iff_of_leads hbefore).trans (ends_raised_iff e _)).symm
  all_goals
    exact ⟨.congr nofun nofun (hstep.trans hbefore.symm), .congr nofun nofun (hbefore.trans hstep.symm)⟩

theorem statementsEnd_cons (st : Stmt) (rest : List Stmt) :
    StatementsEnd m t σ (st :: rest) = InTurn (StatementsEnd m t σ [st]) (StatementsEnd m t σ rest) := by
  cases rest with
  | nil => exact (inTurn_nil_right _).symm
  | cons st' rest => exact ends_ext fun w o w'' => (ends_first_iff st st' rest).trans (ends_before_iff ⟨rfl, rfl⟩)

/-- **The statements of two lists are run in turn.** -/
theorem statementsEnd_append (m : Machine) (t : Thread) (σ : Addr) (a b : List Stmt) :
    StatementsEnd m t σ (a ++ b) = InTurn (StatementsEnd m t σ a) (StatementsEnd m t σ b) := by
  induction a with
  | nil => exact (inTurn_nil_left _).symm
  | cons st a ih =>
    calc StatementsEnd m t σ (st :: (a ++ b))
      _ = InTurn (StatementsEnd m t σ [st]) (StatementsEnd m t σ (a ++ b)) := statementsEnd_cons st (a ++ b)
      _ = InTurn (StatementsEnd m t σ [st]) (InTurn (StatementsEnd m t σ a) (StatementsEnd m t σ b)) := by rw [ih]
      _ = InTurn (InTurn (StatementsEnd m t σ [st]) (StatementsEnd m t σ a)) (StatementsEnd m t σ b) :=
        (inTurn_assoc _ _ _).symm
      _ = InTurn (StatementsEnd m t σ (st :: a)) (StatementsEnd m t σ b) := by rw [← statementsEnd_cons]

/-! ## Runs -/

/-- The end of a call whose statements end so. -/
def Outcome.ending : Outcome → World → Ending Value
  | .through, w | .waiting _, w => .ok .null w
  | .left v, w => .ok v w
  | .failed f, w => .error f w

/-- The turns of a run that are enough end as the statements do. -/
theorem EndsIn.turns (h : EndsIn m t n s w o w'') (depth : Nat) {k : Nat} (hk : n < k) :
    returned depth (Run.turns (step m) t k s w) = settled depth (o.ending w'') := by
  induction h generalizing k with
  | through σ w =>
    obtain ⟨k, rfl⟩ := Nat.exists_eq_add_of_lt hk
    rfl
  | left _ hstep =>
    obtain ⟨k, rfl⟩ := Nat.exists_eq_add_of_lt hk
    rw [Run.turns, hstep]
    rfl
  | waiting hstep =>
    obtain ⟨k, rfl⟩ := Nat.exists_eq_add_of_lt hk
    rw [Run.turns, hstep]
    rfl
  | @failed s f w w' hstep =>
    obtain ⟨k, rfl⟩ := Nat.exists_eq_add_of_lt hk
    rw [Run.turns, hstep]
    cases f <;> rfl
  | @more n s s' o w w' w'' hl _ ih =>
    obtain ⟨k, rfl⟩ := Nat.exists_eq_add_of_lt hk
    have hturn : Run.turns (step m) t (n + 1 + k + 1) s w = Run.turns (step m) t (n + 1 + k) s' w' := by
      rw [Run.turns, show (step m s).actIn t w = .ok (.inl s') w' from hl]
    rw [hturn]
    exact ih (by omega)

/-- Too few turns are cut off. -/
theorem EndsIn.turns_short (h : EndsIn m t n s w o w'') {k : Nat} (hk : k ≤ n) :
    ∃ left, Run.turns (step m) t k s w = .error .exhausted left := by
  induction h generalizing k with
  | @more n s s' o w w' w'' hl _ ih =>
    cases k with
    | zero => exact ⟨w, rfl⟩
    | succ k =>
      obtain ⟨left, hleft⟩ := ih (Nat.le_of_succ_le_succ hk)
      refine ⟨left, ?_⟩
      rw [Run.turns, show (step m s).actIn t w = .ok (.inl s') w' from hl]
      exact hleft
  | _ =>
    cases Nat.le_zero.1 hk
    exact ⟨_, rfl⟩

/-- A run ends as its statements do, unless it takes more steps than a run can have. -/
theorem returned_run (h : Ends m t s w o w'') (depth : Nat) :
    returned depth ((run m s).actIn t w) = settled depth (o.ending w'') ∨
      ∃ left, returned depth ((run m s).actIn t w) = .error .exhausted left := by
  obtain ⟨n, h⟩ := h
  obtain hk | hk := Nat.lt_or_ge n Run.patience
  · exact .inl (h.turns depth hk)
  · obtain ⟨left, hleft⟩ := h.turns_short hk
    exact .inr ⟨left, congrArg (returned depth) hleft⟩

/-! ## What the parts of a script say -/

namespace Scope

theorem namesInAll_append (a b : List Stmt) : namesInAll (a ++ b) = namesInAll a ++ namesInAll b := by
  induction a with
  | nil => rfl
  | cons s a ih => rw [List.cons_append, namesInAll, ih, namesInAll, List.append_assoc]

theorem globalsInAll_append (a b : List Stmt) : globalsInAll (a ++ b) = globalsInAll a ++ globalsInAll b := by
  induction a with
  | nil => rfl
  | cons s a ih => rw [List.cons_append, globalsInAll, ih, globalsInAll, List.append_assoc]

theorem yieldsIn_append (a b : List Stmt) : yieldsIn (a ++ b) = (yieldsIn a || yieldsIn b) := by
  induction a with
  | nil => rfl
  | cons s a ih =>
    change (stmtUses true s || yieldsIn (a ++ b)) = (stmtUses true s || yieldsIn a || yieldsIn b)
    rw [ih, Bool.or_assoc]

/-- What belongs to a body gets a value in it. -/
theorem mem_namesInAll_of_bound {body : List Stmt} {id : String} (h : id ∈ bound body) : id ∈ namesInAll body :=
  (List.mem_filter.1 (List.mem_eraseDups.1 h)).1

end Scope

end Script

namespace ScriptEngine

open Script

/-- How a step ends whose statements end so. -/
def ended (depth : Nat) (o : Outcome) (w : World) : Ending (Except Addr Value) :=
  Run.Ending.outcome (settled depth (o.ending w))

/-- A step ends as its statements do, unless it is cut off. -/
theorem start_ends (host : Host) (n : Nat) (inThread : Bool) {source : String} {body : List Stmt} {w w' : World}
    (context : Value) (step : String) {o : Outcome} (hsource : Script.compile source = .ok body)
    (hyields : Scope.yieldsIn body = false) (hdepth : w.depth < depthLimit)
    (h : StatementsEnd (Machine.at host n) (threadOf inThread) (w.scopeOf body) body
      (w.entering body (givenTo context)) o w') :
    (start (Machine.at host (n + 1)) inThread source context step).act w = ended w.depth o w' ∨
      ∃ left, (start (Machine.at host (n + 1)) inThread source context step).act w = .error .exhausted left := by
  rw [start_act host n inThread context step hsource hyields hdepth]
  obtain hends | ⟨left, hleft⟩ := returned_run h w.depth
  · exact .inl (congrArg Run.Ending.outcome hends)
  · exact .inr ⟨left, congrArg Run.Ending.outcome hleft⟩

/-- The assignment of a number to a name. -/
def numbering (l : Nat) (id : String) (k : Int) : List Stmt := [.assign l [.name l id] (.lit (.int k))]

end ScriptEngine

namespace Engine

open Script

/-- The number that a run of scripts leaves under the key, if it leaves no text as the output. -/
def numberLeft? (codes : List String) (key : String) : Option Int :=
  match (bare.execute barePlatform (scripts codes) .null .null).act bareWorld with
  | .ok run w =>
    match w.item? run.context (Dict.textKey Context.outputKey), w.item? run.context (Dict.textKey key) with
    | some .null, some v => v.int?
    | _, _ => none
  | .error .. => none

/-- The script gives no name a value, declares none to belong to the whole script, and hands out nothing. -/
def bindsNothing (code : String) : Bool :=
  match compile code with
  | .ok body => (Scope.namesInAll body ++ Scope.globalsInAll body).isEmpty && !Scope.yieldsIn body
  | .error _ => false

/-- A script that counts. -/
def counting : String := "context['n'] = context.get('n', 0) + 1"

/-- A script that calls itself, once. -/
def calling : String := "if not context.get('b'):\n    context['b'] = 1\n    run_step()"

end Engine

end Stepwise
