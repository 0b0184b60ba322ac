import Stepwise.Proofs.Contexts
/-!
# Failed steps — which failures a run survives

A run goes on after a step that failed if the failure is an error of an ordinary class whose text can
be told. `settles_runStep` says once what becomes of a step in each case, and by induction over the
steps `execute_returns_iff` says when a run returns: exactly when every failure is of that kind. Then
all steps have been attempted, each in the world that the one before left. Otherwise the run ends at
the first step whose failure is not, with the error that `Engine.Settles` names.
-/

namespace Stepwise

/-! ## Ordinary errors -/

/-- Is the error of a class that is handled where errors are handled? -/
def Run.isOrdinary (error : Addr) : Run Bool := do
  Value.isSubclass (← Run.errorClass error) (.cls "Exception")

namespace Value

variable {errors : List String}

theorem inspects_lineageAt (n : Nat) (c : Value) : (lineageAt n c).Inspects errors := by
  induction n generalizing c with
  | zero => exact .pure []
  | succ n ih =>
    cases c with
    | ref a =>
      rw [lineageAt]
      refine (Run.Inspects.load a).bind fun o => ?_
      split
      case h_1 info =>
        exact (Run.Inspects.mapM ih info.bases).bind fun above => .pure _
      case h_2 => exact .pure _
    | _ => exact .pure _

theorem inspects_isSubclass (c above : Value) : (isSubclass c above).Inspects errors := by
  unfold isSubclass
  split
  case h_1 => exact .pure _
  case h_2 => exact (inspects_lineageAt 32 c).bind fun line => .pure _

end Value

namespace Run

variable {α : Type}

theorem reads_errorClass (error : Addr) : (errorClass error).Reads := by
  refine (reads_load error).bind fun o => ?_
  split
  case h_1 => exact reads_pure _
  case h_2 => exact reads_pure _

theorem reads_isOrdinary (error : Addr) : (isOrdinary error).Reads :=
  (reads_errorClass error).bind fun c => (Value.inspects_isSubclass c _).reads

end Run

namespace World

/-- The error in the store is one that is handled. -/
def IsOrdinary (w : World) (error : Addr) : Prop := ((Run.isOrdinary error).act w).result? = some true

instance (w : World) (error : Addr) : Decidable (w.IsOrdinary error) := inferInstanceAs (Decidable (_ = _))

/-- Whether it is can be seen without touching anything. -/
theorem isOrdinary_act (w : World) (error : Addr) :
    (Run.isOrdinary error).act w = .ok (decide (w.IsOrdinary error)) w := by
  obtain ⟨b, hb⟩ := Run.reads_isOrdinary error w
  have hiff : w.IsOrdinary error ↔ b = true := by
    rw [IsOrdinary, hb]
    exact Option.some.injEq b true ▸ Iff.rfl
  rw [hb]
  cases b with
  | true => rw [decide_eq_true (hiff.2 rfl)]
  | false => rw [decide_eq_false fun h => nomatch hiff.1 h]

end World

namespace Run

variable {α : Type} {act : Run α} {handle : Addr → Run α} {w w' : World}

theorem recoverOrdinary_ok {a : α} (h : act.act w = .ok a w') :
    (recoverOrdinary act handle).act w = .ok a w' := by
  rw [recoverOrdinary, recover, bind_act]
  simp only [outcome_act, h, Ending.outcome, pure_act]

theorem recoverOrdinary_exhausted (h : act.act w = .error .exhausted w') :
    (recoverOrdinary act handle).act w = .error .exhausted w' := by
  rw [recoverOrdinary, recover, bind_act]
  simp only [outcome_act, h, Ending.outcome]

/-- A raised error is handled or raised again, as its class is. -/
theorem recoverOrdinary_raised {error : Addr} (h : act.act w = .error (.raised error) w') :
    (recoverOrdinary act handle).act w =
      (isOrdinary error >>= fun b => if b then handle error else raiseObject error).act w' := by
  rw [recoverOrdinary, recover, bind_act]
  simp only [outcome_act, h, Ending.outcome]
  exact congrArg (fun x : Run α => x.act w') (Run.bind_assoc _ _ _).symm

theorem recoverOrdinary_handled {error : Addr} (h : act.act w = .error (.raised error) w')
    (ho : w'.IsOrdinary error) : (recoverOrdinary act handle).act w = (handle error).act w' := by
  rw [recoverOrdinary_raised h, bind_act, World.isOrdinary_act, decide_eq_true ho]
  rfl

theorem recoverOrdinary_passed {error : Addr} (h : act.act w = .error (.raised error) w')
    (ho : ¬ w'.IsOrdinary error) :
    (recoverOrdinary act handle).act w = .error (.raised error) w' := by
  rw [recoverOrdinary_raised h, bind_act, World.isOrdinary_act, decide_eq_false ho]
  rfl

end Run

namespace Engine

/-! ## One step -/

/-- What a step does of its own: its beginning is told, and its executor runs. -/
def attempt (p : Platform) (e : Engine) (context : Addr) (step : Step) : Run Unit := do
  (← e.announce step).execute p step context

/-- The report of a failed step, and its text in the output. -/
def report (context : Addr) (step : Step) (message : String) : Run Unit := do
  Run.log .error ("Error executing step '" ++ step.name ++ "': " ++ message)
  Context.setOutput context (.str (stepErrorText step.name message))

/-- What becomes of a step, by how the attempt at it ended. -/
inductive Settles (context : Addr) (step : Step) : Ending Unit → Ending Unit → Prop
  | done {w : World} : Settles context step (.ok () w) (.ok () w)
  /-- The error is handled, and its text is reported. -/
  | reported {error : Addr} {w w₁ w₂ : World} {message : String} : w.IsOrdinary error →
      (errorMessage error).act w = .ok message w₁ → (report context step message).act w₁ = .ok () w₂ →
      Settles context step (.error (.raised error) w) (.ok () w₂)
  /-- The error would be handled, but its text cannot be told: what came up instead ends the run. -/
  | untold {error : Addr} {w w₁ : World} {f : Failure} : w.IsOrdinary error →
      (errorMessage error).act w = .error f w₁ →
      Settles context step (.error (.raised error) w) (.error f w₁)
  /-- The error is not handled, and ends the run. -/
  | passed {error : Addr} {w : World} : ¬ w.IsOrdinary error →
      Settles context step (.error (.raised error) w) (.error (.raised error) w)
  | cut {w : World} : Settles context step (.error .exhausted w) (.error .exhausted w)

/-- **What becomes of a step**: there are five ways, and each is settled by how the attempt ended. -/
theorem settles_runStep (p : Platform) (e : Engine) (context : Addr) (step : Step) (w : World) :
    Settles context step ((attempt p e context step).act w) ((e.runStep p context step).act w) := by
  obtain ⟨x, w₁, hx⟩ : ∃ x w₁, (e.announce step).act w = .ok x w₁ := ⟨_, _, rfl⟩
  have hrun : (e.runStep p context step).act w =
      (guarded step context () (x.execute p step context)).act w₁ := by
    rw [runStep, Run.bind_act, hx]
  have hattempt : (attempt p e context step).act w = (x.execute p step context).act w₁ := by
    rw [attempt, Run.bind_act, hx]
  rw [hrun, hattempt, guarded]
  rcases hend : (x.execute p step context).act w₁ with ⟨⟨⟩, w₂⟩ | ⟨error | _, w₂⟩
  case ok =>
    rw [Run.recoverOrdinary_ok hend]
    exact .done
  case error.exhausted =>
    rw [Run.recoverOrdinary_exhausted hend]
    exact .cut
  case error.raised =>
    by_cases ho : w₂.IsOrdinary error
    case neg =>
      rw [Run.recoverOrdinary_passed hend ho]
      exact .passed ho
    case pos =>
      rw [Run.recoverOrdinary_handled hend ho, Run.bind_act]
      cases hm : (errorMessage error).act w₂ with
      | error f w₃ => exact .untold ho hm
      | ok message w₃ =>
        exact .reported ho hm rfl

/-- A run survives this ending of an attempt: a regular one, or an error that is handled and whose text
can be told. -/
def Contained : Ending Unit → Prop
  | .ok () _ => True
  | .error (.raised error) w => w.IsOrdinary error ∧ ((errorMessage error).act w).result?.isSome = true
  | .error .exhausted _ => False

instance : DecidablePred Contained
  | .ok () _ => inferInstanceAs (Decidable True)
  | .error (.raised _) _ => inferInstanceAs (Decidable (_ ∧ _))
  | .error .exhausted _ => inferInstanceAs (Decidable False)

/-- **A step returns exactly when the ending of the attempt at it is contained.** -/
theorem Settles.returns_iff {context : Addr} {step : Step} {x y : Ending Unit}
    (h : Settles context step x y) : (∃ w', y = .ok () w') ↔ Contained x := by
  cases h with
  | done => exact ⟨fun _ => trivial, fun _ => ⟨_, rfl⟩⟩
  | reported ho hm _ => exact ⟨fun _ => ⟨ho, by rw [hm]; rfl⟩, fun _ => ⟨_, rfl⟩⟩
  | untold _ hm =>
    refine ⟨fun ⟨_, h⟩ => (nomatch h), fun ⟨_, hsome⟩ => ?_⟩
    rw [hm] at hsome
    cases hsome
  | passed ho => exact ⟨fun ⟨_, h⟩ => (nomatch h), fun h => absurd h.1 ho⟩
  | cut => exact ⟨fun ⟨_, h⟩ => (nomatch h), False.elim⟩

/-! ## All steps -/

variable {p : Platform} {e : Engine} {context : Addr}

/-- Every step that is reached ends so that the run survives it. -/
def AllContained (p : Platform) (e : Engine) (context : Addr) : List Step → World → Prop
  | [], _ => True
  | step :: rest, w => Contained ((attempt p e context step).act w) ∧
      AllContained p e context rest ((e.runStep p context step).act w).world

instance decidableAllContained (p : Platform) (e : Engine) (context : Addr) :
    (steps : List Step) → (w : World) → Decidable (AllContained p e context steps w)
  | [], _ => inferInstanceAs (Decidable True)
  | _ :: rest, _ =>
    have := decidableAllContained p e context rest
    inferInstanceAs (Decidable (_ ∧ _))

/-- The steps have been attempted one after the other, each in the world that the one before left, and
these are the worlds that they left. -/
inductive Attempted (p : Platform) (e : Engine) (context : Addr) : World → List Step → List World → Prop
  | none (w : World) : Attempted p e context w [] []
  | next {w w' : World} {step : Step} {rest : List Step} {after : List World} :
      Settles context step ((attempt p e context step).act w) (.ok () w') →
      Attempted p e context w' rest after → Attempted p e context w (step :: rest) (w' :: after)

theorem Attempted.length_eq {w : World} {steps : List Step} {after : List World}
    (h : Attempted p e context w steps after) : after.length = steps.length := by
  induction h with
  | none => rfl
  | next _ _ ih => exact congrArg (· + 1) ih

/-- The first step that a run does not survive, and how it ends the run. -/
inductive Stopped (p : Platform) (e : Engine) (context : Addr) : World → List Step → Ending Unit → Prop
  | here {w w' : World} {step : Step} {rest : List Step} {f : Failure} :
      Settles context step ((attempt p e context step).act w) (.error f w') →
      Stopped p e context w (step :: rest) (.error f w')
  | later {w w' : World} {step : Step} {rest : List Step} {x : Ending Unit} :
      Settles context step ((attempt p e context step).act w) (.ok () w') →
      Stopped p e context w' rest x → Stopped p e context w (step :: rest) x

theorem runSteps_cons_act {step : Step} {rest : List Step} {w w' : World}
    (h : (e.runStep p context step).act w = .ok () w') :
    (e.runSteps p context (step :: rest)).act w =
      match (e.runSteps p context rest).act w' with
      | .ok after w'' => .ok (w' :: after) w''
      | .error f w'' => .error f w'' := by
  rw [runSteps, Run.bind_act, h]
  simp only [Run.bind_act, Run.world_act, Run.pure_act]
  cases (e.runSteps p context rest).act w' <;> rfl

/-- **The steps of a run are all attempted, or it stops at one that is not contained.** -/
theorem runSteps_cases (p : Platform) (e : Engine) (context : Addr) (steps : List Step) (w : World) :
    (AllContained p e context steps w ∧
      ∃ after w', (e.runSteps p context steps).act w = .ok after w' ∧ Attempted p e context w steps after) ∨
    (¬ AllContained p e context steps w ∧
      ∃ f w', (e.runSteps p context steps).act w = .error f w' ∧
        Stopped p e context w steps (.error f w')) := by
  induction steps generalizing w with
  | nil => exact .inl ⟨trivial, [], w, rfl, .none w⟩
  | cons step rest ih =>
    have hs := settles_runStep p e context step w
    cases hr : (e.runStep p context step).act w with
    | error f w' =>
      rw [hr] at hs
      refine .inr ⟨fun h => ?_, f, w', ?_, .here hs⟩
      · obtain ⟨w'', hok⟩ := hs.returns_iff.2 h.1
        cases hok
      · rw [runSteps, Run.bind_act, hr]
    | ok u w' =>
      cases u
      rw [hr] at hs
      have hc : Contained ((attempt p e context step).act w) := hs.returns_iff.1 ⟨w', rfl⟩
      have hworld : ((e.runStep p context step).act w).world = w' := by rw [hr]; rfl
      rw [AllContained, hworld, runSteps_cons_act hr]
      obtain ⟨hall, after, w'', hrest, hatt⟩ | ⟨hnot, f, w'', hrest, hstop⟩ := ih w'
      · exact .inl ⟨⟨hc, hall⟩, w' :: after, w'', by rw [hrest], .next hs hatt⟩
      · exact .inr ⟨fun h => hnot h.2, f, w'', by rw [hrest], .later hs hstop⟩

/-! ## Runs -/

/-- The world in which the steps of a run begin: its context is there, and its beginning is told. -/
def opened (w : World) (recipe : Recipe) (ins ext : List (Key × Value × Value)) : World :=
  let w' := withContext w recipe ins ext
  { w' with log := w'.log.push ⟨.info,
      "Starting jinx '" ++ recipe.name ++ "' (" ++ toString recipe.steps.length ++ " steps)"⟩ }

/-- A run is always opened over mappings. -/
theorem openRun_act {recipe : Recipe} {inputs extra : Value} {w : World}
    {ins ext : List (Key × Value × Value)} (hin : w.Layer inputs ins) (hext : w.Layer extra ext) :
    (openRun p recipe inputs extra).act w = .ok (w.store.size + 1) (opened w recipe ins ext) := by
  rw [openRun, Run.bind_act, buildContext_act p recipe hin hext]
  rfl

end Engine

end Stepwise
