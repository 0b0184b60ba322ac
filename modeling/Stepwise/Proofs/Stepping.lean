import Stepwise.Script.Step
/-!
# Scripts step by step

What a script does is read off one step at a time. `Reaches` says that some steps lead from one state to another;
a run then goes on from there (`run_of_reaches`), and what a single step does is one lemma for each kind of control
and frame that is met.
-/

namespace Stepwise

namespace Run

/-- A loop ends with its first turn, or goes on from there. -/
theorem iterate_actIn {σ α : Type} (step : σ → Run (σ ⊕ α)) (n : Nat) (s : σ) (t : Thread) (w : World) :
    (iterate step (n + 1) s).actIn t w = match (step s).actIn t w with
      | .ok (.inl s') w' => (iterate step n s').actIn t w'
      | .ok (.inr a) w' => .ok a w'
      | .error e w' => .error e w' := rfl

theorem outcome_actIn {α : Type} (x : Run α) (t : Thread) (w : World) :
    (outcome x).actIn t w = Ending.outcome (x.actIn t w) := rfl

end Run

namespace Script

variable {m : Machine} {t : Thread} {s s' s'' : State} {w w' w'' : World} {n k : Nat}

/-! ## Steps -/

/-- A step ends as the attempt at it does, but that an error is left to the frames below. -/
theorem step_actIn (m : Machine) (s : State) (t : Thread) (w : World) :
    (step m s).actIn t w = match (tryStep m s).actIn t w with
      | .ok r w' => .ok r w'
      | .error (.raised e) w' => match afterError s with
        | [] => .error (.raised e) w'
        | f :: stack => .ok (.inl { s with control := .exit (.raised e), stack := f :: stack }) w'
      | .error .exhausted w' => .error .exhausted w' := by
  rw [step, Run.bind_actIn, Run.outcome_actIn]
  rcases (tryStep m s).actIn t w with ⟨r, w'⟩ | ⟨e | _, w'⟩
  · rfl
  · dsimp only [Run.Ending.outcome]
    cases afterError s <;> rfl
  · rfl

/-- A step leads from one state to the next. -/
def Leads (m : Machine) (t : Thread) (s : State) (w : World) (s' : State) (w' : World) : Prop :=
  (step m s).actIn t w = .ok (.inl s') w'

theorem leads_of_try (h : (tryStep m s).actIn t w = .ok (.inl s') w') : Leads m t s w s' w' := by
  rw [Leads, step_actIn, h]

/-- So many steps lead from one state to another. -/
inductive Reaches (m : Machine) (t : Thread) : Nat → State → World → State → World → Prop
  | refl (s : State) (w : World) : Reaches m t 0 s w s w
  | step {n : Nat} {s s' s'' : State} {w w' w'' : World} : Leads m t s w s' w' → Reaches m t n s' w' s'' w'' →
      Reaches m t (n + 1) s w s'' w''

theorem Reaches.one (h : Leads m t s w s' w') : Reaches m t 1 s w s' w' := .step h (.refl s' w')

/-- What is reached in some steps is the turns that are left. -/
theorem turns_of_reaches (h : Reaches m t n s w s' w') (k : Nat) :
    Run.turns (step m) t (n + k) s w = Run.turns (step m) t k s' w' := by
  induction h with
  | refl => rw [Nat.zero_add]
  | @step n s s' _ w w' _ hfirst _ ih =>
    have hturn : Run.turns (step m) t (n + k + 1) s w = Run.turns (step m) t (n + k) s' w' := by
      rw [Run.turns, show (step m s).actIn t w = .ok (.inl s') w' from hfirst]
    rw [Nat.succ_add, hturn, ih]

/-- **A run goes on from what it reaches.** -/
theorem run_of_reaches (h : Reaches m .common n s w s' w') (hn : n ≤ Run.patience) :
    (run m s).act w = Run.turns (step m) .common (Run.patience - n) s' w' := by
  have hturns := turns_of_reaches h (Run.patience - n)
  rw [Nat.add_sub_cancel' hn] at hturns
  exact hturns

/-- **A step that does something goes on from what it makes**; an error is left to the frames below, if there are
any. -/
theorem turns_effect {α : Type} {x : Run α} {f : α → State} (htry : tryStep m s = (do next (f (← x)))) :
    Run.turns (step m) .common (k + 1) s w = match x.act w with
      | .ok a w' => Run.turns (step m) .common k (f a) w'
      | .error (.raised e) w' => match afterError s with
        | [] => .error (.raised e) w'
        | f :: stack => Run.turns (step m) .common k { s with control := .exit (.raised e), stack := f :: stack } w'
      | .error .exhausted w' => .error .exhausted w' := by
  have hstep := step_actIn m s .common w
  rw [htry, Run.bind_actIn, show x.actIn .common w = x.act w from rfl] at hstep
  rw [Run.turns, hstep]
  rcases x.act w with ⟨a, w'⟩ | ⟨e | _, w'⟩
  · rfl
  · dsimp only
    cases afterError s <;> rfl
  · rfl

/-! ## Names -/

variable {σ τ : Addr} {id : String} {v : Value} {stack : List Frame} {l : Nat}

/-- The name has the value in the scope. -/
structure Names (w : World) (σ : Addr) (id : String) (v : Value) : Prop where
  plain : id ≠ "print" ∧ id ≠ "printed"
  lookup_act : (lookup σ id).act w = .ok v w

theorem evalStep_name {p : State → List Value → Action → Next} (h : id ≠ "print" ∧ id ≠ "printed") :
    evalStep m p s (.name l id) = lookup s.scope id >>= fun v => next (s.go (.value v)) := by
  rw [evalStep]
  · simpa using h.1
  · simpa using h.2

theorem leads_name (h : Names w σ id v) :
    Leads m .common ⟨.eval (.name l id), stack, σ⟩ w ⟨.value v, stack, σ⟩ w := by
  refine leads_of_try ?_
  change (evalStep m (perform m) ⟨_, _, _⟩ (.name l id)).act w = _
  rw [evalStep_name h.plain, Run.bind_act, h.lookup_act]
  rfl

end Script

end Stepwise
