import Stepwise.Proofs.Output
/-!
# What a template leaves that fails

A render step whose template fails has no component, and the executor then writes nothing. But the template was
handed the context and has run until it failed, and what it wrote is not taken back. So a failed step leaves no
trace exactly as far as its template had left none (`Executor.no_trace_iff`). Loading the environment and
compiling the template change no object but the toolchain.
-/

namespace Stepwise

/-! ## Runs that touch one object only -/

namespace Run

variable {α β : Type} {a : Addr}

/-- However the run ends, every object but one is what it was. -/
def TouchesOnly (a : Addr) (x : Run α) : Prop :=
  ∀ (w : World) (b : Addr), b ≠ a → b < w.store.size → (x.act w).world.store[b]? = w.store[b]?

theorem map_act (f : α → β) (x : Run α) (w : World) :
    (f <$> x).act w = match x.act w with
      | .ok v w' => .ok (f v) w'
      | .error e w' => .error e w' := rfl

namespace TouchesOnly

theorem pure (v : α) : (Pure.pure v : Run α).TouchesOnly a := fun _ _ _ _ => rfl

theorem load (b : Addr) : (Run.load b).TouchesOnly a := fun _ _ _ _ => rfl

theorem log (level : Level) (message : String) : (Run.log level message).TouchesOnly a := fun _ _ _ _ => rfl

/-- An error is raised behind all objects. -/
theorem raise (cls message : String) : (Run.raise cls message : Run α).TouchesOnly a := fun w b _ hlt => by
  change (w.store.push _)[b]? = _
  rw [Array.getElem?_push, if_neg (Nat.ne_of_lt hlt)]

theorem update (f : Obj → Obj) (keeps : ∀ o : Obj, (f o).kind = o.kind) : (Run.update a f keeps).TouchesOnly a :=
  fun _ _ hb _ => (Array.getElem?_modify ..).trans (if_neg hb.symm)

theorem bind {x : Run α} {f : α → Run β} (hx : x.TouchesOnly a) (hf : ∀ v, (f v).TouchesOnly a) :
    (x >>= f).TouchesOnly a := by
  intro w b hb hlt
  have hfirst := hx w b hb hlt
  rw [bind_act]
  cases hend : x.act w with
  | error e w' =>
    rw [hend] at hfirst
    exact hfirst
  | ok v w' =>
    rw [hend] at hfirst
    have hthere : w'.store[b]? = some w.store[b] := hfirst.trans (Array.getElem?_eq_getElem hlt)
    exact (hf v w' b hb (Array.getElem?_eq_some_iff.1 hthere).1).trans hfirst

end TouchesOnly

/-- Looking at objects touches none. -/
theorem Inspects.touchesOnly {errors : List String} {x : Run α} (h : x.Inspects errors) : x.TouchesOnly a := by
  induction h with
  | pure v => exact .pure v
  | load b => exact .load b
  | raise message _ => exact .raise _ message
  | bind _ _ ihx ihf => exact ihx.bind ihf

end Run

namespace Toolchain

open Run (TouchesOnly Inspects)

variable {a : Addr}

/-! ## What happens before a template runs -/

theorem inspects_fetch (errors : List String) (a : Addr) : (fetch a).Inspects errors := by
  refine (Inspects.load a).bind fun o => ?_
  split <;> exact .pure _

theorem touchesOnly_change (f : Loading Environment → Loading Environment) : (change a f).TouchesOnly a := .update _ _

theorem touchesOnly_enter (a : Addr) : (enter a).TouchesOnly a := by
  refine (inspects_fetch [] a).touchesOnly.bind fun t => ?_
  dsimp only
  split
  · exact .pure _
  · exact (touchesOnly_change _).bind fun _ => .pure _

theorem touchesOnly_runLoad (a : Addr) (number : Nat) : (runLoad a number).TouchesOnly a := by
  refine (inspects_fetch [] a).touchesOnly.bind fun t => ?_
  have htell : (change a (·.tell number)).TouchesOnly a := touchesOnly_change _
  dsimp only
  split
  · refine (touchesOnly_change _).bind fun _ => (TouchesOnly.log _ _).bind fun _ => ?_
    cases t.nextEnd with
    | ok handed =>
      exact (touchesOnly_change _).bind fun _ => (TouchesOnly.log _ _).bind fun _ => htell
    | error fault =>
      exact (TouchesOnly.log _ _).bind fun _ => (touchesOnly_change _).bind fun _ => htell
  · exact htell

theorem touchesOnly_settle (a : Addr) (number : Nat) : (settle a number).TouchesOnly a := by
  refine (inspects_fetch [] a).touchesOnly.bind fun t => ?_
  split
  · exact .raise _ _
  · exact .pure _

/-- **Loading the environment touches only the toolchain.** -/
theorem touchesOnly_ensureInitialized (a : Addr) : (ensureInitialized a).TouchesOnly a := by
  refine (touchesOnly_enter a).bind fun number => ?_
  split
  · exact .pure _
  · exact (touchesOnly_runLoad a _).bind fun _ => touchesOnly_settle a _

/-- The classes of the errors that compiling a template may raise. -/
def compileErrors : List String :=
  [Classes.toolchainError, "AttributeError", Classes.templateSyntaxError, Classes.templateAssertionError]

/-- **Compiling a template is looking.** -/
theorem inspects_compile (a : Addr) (source : String) : (compile a source).Inspects compileErrors := by
  refine Inspects.bind ((inspects_fetch _ a).bind fun t => ?_) fun env => ?_
  · split
    · exact .pure _
    · exact .raise _ (by decide)
  · dsimp only
    split
    · exact .raise _ (by decide)
    · split
      · exact .pure _
      · exact .raise _ (by decide)
      · exact .raise _ (by decide)

/-! ## How a template fails -/

variable {m : Machine} {source : String} {context : Value} {step : String} {begun v w left : World}

/-- Evaluates a template over a context, for the component that it exports or is. -/
def evaluate (m : Machine) (a : Addr) (t : Template) (context : Value) : Run Value := do
  Template.componentOf m t context (← fetch a).settings.componentName

/-- A template that can be compiled is evaluated, fails, and leaves this world. -/
def Fails (m : Machine) (a : Addr) (source : String) (context : Value) (begun v : World) : Prop :=
  ∃ t error, (compile a source).act begun = .ok t begun ∧
    (evaluate m a t context).act begun = .error (.raised error) v

theorem Fails.unique {v' : World} (h : Fails m a source context begun v) (h' : Fails m a source context begun v') :
    v = v' := by
  obtain ⟨t, error, hcompile, hend⟩ := h
  obtain ⟨t', error', hcompile', hend'⟩ := h'
  cases hcompile.symm.trans hcompile'
  cases hend.symm.trans hend'
  rfl

/-- A component that there is comes from the evaluation. -/
theorem evaluated_isSome {c : Option Value}
    (h : (compile a source >>= fun t => some <$> evaluate m a t context).act begun = .ok c v) : c.isSome = true := by
  rw [Run.bind_act] at h
  cases hcompile : (compile a source).act begun with
  | error f v' =>
    rw [hcompile] at h
    cases h
  | ok t v' =>
    rw [hcompile] at h
    dsimp only at h
    rw [Run.map_act] at h
    cases hend : (evaluate m a t context).act v' with
    | error f v'' =>
      rw [hend] at h
      cases h
    | ok k v'' =>
      rw [hend] at h
      cases h
      rfl

/-- Where there is none an error was raised, and only the report of it is behind that. -/
theorem produce_none (h : (produce m a source context step).act begun = .ok none left) :
    ∃ error v r, (compile a source >>= fun t => some <$> evaluate m a t context).act begun =
      .error (.raised error) v ∧ left = { v with log := v.log.push r } := by
  have hproduce : produce m a source context step =
      Run.recoverOrdinary (compile a source >>= fun t => some <$> evaluate m a t context) fun e => do
        Run.log .error ("Render compile error in step '" ++ step ++ "': " ++ (← errorMessage e))
        return none := by
    refine congrArg (Run.recoverOrdinary · _) (congrArg (compile a source >>= ·) (funext fun t => ?_))
    exact (Run.bind_assoc _ _ _).symm
  rw [hproduce] at h
  rcases hend : (compile a source >>= fun t => some <$> evaluate m a t context).act begun with
    ⟨c, v⟩ | ⟨error | _, v⟩
  case ok =>
    rw [Run.recoverOrdinary_ok hend] at h
    cases h
    cases evaluated_isSome hend
  case error.exhausted =>
    rw [Run.recoverOrdinary_exhausted hend] at h
    cases h
  case error.raised =>
    by_cases ho : v.IsOrdinary error
    case neg =>
      rw [Run.recoverOrdinary_passed hend ho] at h
      cases h
    case pos =>
      rw [Run.recoverOrdinary_handled hend ho, Run.bind_act] at h
      cases hm : (errorMessage error).act v with
      | error f v₁ =>
        rw [hm] at h
        cases h
      | ok message v₁ =>
        obtain rfl := eq_of_errorMessage hm
        rw [hm] at h
        cases h
        exact ⟨error, _, _, rfl, rfl⟩

/-- **Where there is no component, either the template could not be compiled, or it was evaluated and failed.**
What was left then is only reported. -/
theorem produce_none_cases (h : (produce m a source context step).act begun = .ok none left) :
    ∃ v r, left = { v with log := v.log.push r } ∧
      (Fails m a source context begun v ∨ (∀ v, ¬ Fails m a source context begun v) ∧
        ∀ b, b ≠ a → b < begun.store.size → v.store[b]? = begun.store[b]?) := by
  obtain ⟨error, v, r, hraised, rfl⟩ := produce_none h
  refine ⟨v, r, rfl, ?_⟩
  have htouches := (inspects_compile a source).touchesOnly (a := a) begun
  cases hcompile : (compile a source).act begun with
  | error f v' =>
    rw [Run.bind_act, hcompile] at hraised
    cases hraised
    rw [hcompile] at htouches
    refine .inr ⟨fun v' ⟨t, _, hcompiled, _⟩ => ?_, htouches⟩
    cases hcompile.symm.trans hcompiled
  | ok t v' =>
    obtain rfl : v' = begun := by
      obtain ⟨t', ht'⟩ | ⟨_, -, hnone⟩ := (inspects_compile a source).ends begun
      · cases hcompile.symm.trans (ht' begun rfl)
        rfl
      · obtain ⟨_, _, hnone, -⟩ := hnone begun rfl
        cases hcompile.symm.trans hnone
    rw [Run.bind_act, hcompile] at hraised
    dsimp only at hraised
    rw [Run.map_act] at hraised
    cases hend : (evaluate m a t context).act v' with
    | ok k v'' =>
      rw [hend] at hraised
      cases hraised
    | error f v'' =>
      rw [hend] at hraised
      cases hraised
      exact .inl ⟨t, error, hcompile, hend⟩

end Toolchain

namespace Executor

open Toolchain (Fails)

variable {p : Platform} {toolchain context : Addr} {step : Step} {w left : World}

/-- **A step without component leaves no trace exactly as far as its template left none.** The executor adds a
warning and writes nothing. Every object that was there, but the toolchain, is after the step what it was before
exactly if it was that when the template failed; and so it is in any case if the template could not be compiled. -/
theorem no_trace_iff (p : Platform) (toolchain : Addr) (step : Step) (context : Addr) {w left : World}
    (h : (Toolchain.invoke p.machine toolchain step.code (.ref context) step.name).act w = .ok none left) :
    let w' : World := { left with log := left.log.push ⟨.warning,
      "Render step '" ++ step.name ++ "' produced no component"⟩ }
    ((render (.ref toolchain)).execute p step context).act w = .ok () w' ∧
      ∃ begun, (Toolchain.ensureInitialized toolchain).act w = .ok () begun ∧
        ∀ b, b ≠ toolchain → b < w.store.size → (w'.store[b]? = w.store[b]? ↔
          ∀ v, Fails p.machine toolchain step.code (.ref context) begun v → v.store[b]? = w.store[b]?) := by
  refine ⟨by rw [execute_render, Run.bind_act, h]; rfl, ?_⟩
  have hspared := Toolchain.touchesOnly_ensureInitialized toolchain w
  rw [Toolchain.invoke, Run.bind_act] at h
  cases hbegun : (Toolchain.ensureInitialized toolchain).act w with
  | error f begun =>
    rw [hbegun] at h
    cases h
  | ok u begun =>
    rw [hbegun] at h hspared
    obtain ⟨v, r, rfl, hcases⟩ := Toolchain.produce_none_cases h
    refine ⟨begun, rfl, fun b hb hlt => ?_⟩
    have hsame : begun.store[b]? = w.store[b]? := hspared b hb hlt
    obtain hfails | ⟨hnot, htouches⟩ := hcases
    · refine ⟨fun hkept v' hfails' => ?_, fun hall => hall v hfails⟩
      rw [hfails'.unique hfails]
      exact hkept
    · refine ⟨fun _ v' hfails => absurd hfails (hnot v'), fun _ => ?_⟩
      have hthere : begun.store[b]? = some w.store[b] := hsame.trans (Array.getElem?_eq_getElem hlt)
      exact (htouches b hb (Array.getElem?_eq_some_iff.1 hthere).1).trans hsame

end Executor

namespace Engine

/-! ## Templates that fail -/

/-- A render step of this template. -/
def templateStep (code : String) : Step := ⟨"s", "jinja", code⟩

/-- The world in which a run of that step begins, with its context behind the toolchain and the defaults. -/
def beforeTemplate (code : String) : World :=
  opened bareWorld ⟨"failing", "", [], [templateStep code], .null⟩ [] []

/-- The component of the step. -/
def templateEnd (code : String) : Ending (Option Value) :=
  (Toolchain.invoke barePlatform.machine 0 (templateStep code).code (.ref 2) (templateStep code).name).act
    (beforeTemplate code)

/-- How the step ends. -/
def stepEnd (code : String) : Ending Unit :=
  ((Executor.render (.ref 0)).execute barePlatform (templateStep code) 2).act (beforeTemplate code)

theorem exists_of_templateEnd {code : String} (h : (templateEnd code).result?.map Option.isNone = some true) :
    ∃ left, templateEnd code = .ok none left := by
  rcases hend : templateEnd code with ⟨_ | c, left⟩ | ⟨f, left⟩
  case ok.none => exact ⟨left, rfl⟩
  all_goals
    rw [hend] at h
    cases h

/-- A template that divides by zero leaves as little as it has done. -/
theorem division_leaves_no_more : ∃ left, templateEnd "{{ 1 // 0 }}" = .ok none left ∧
    ∃ begun, (Toolchain.ensureInitialized 0).act (beforeTemplate "{{ 1 // 0 }}") = .ok () begun ∧
      ∀ b, b ≠ 0 → b < (beforeTemplate "{{ 1 // 0 }}").store.size →
        (left.store[b]? = (beforeTemplate "{{ 1 // 0 }}").store[b]? ↔
          ∀ v, Toolchain.Fails barePlatform.machine 0 (templateStep "{{ 1 // 0 }}").code (.ref 2) begun v →
            v.store[b]? = (beforeTemplate "{{ 1 // 0 }}").store[b]?) := by
  have hnone : (templateEnd "{{ 1 // 0 }}").result?.map Option.isNone = some true := by decide +kernel
  obtain ⟨left, hleft⟩ := exists_of_templateEnd hnone
  refine ⟨left, hleft, ?_⟩
  rw [templateEnd] at hleft
  exact (Executor.no_trace_iff barePlatform 0 _ 2 hleft).2

/-- **What a template has written to the context stays there when it fails.** -/
theorem update_leaves_trace :
    (templateEnd "{{ context.update(a=1) }}{{ 1 // 0 }}").result?.map Option.isNone = some true ∧
      (beforeTemplate "{{ context.update(a=1) }}{{ 1 // 0 }}").item? 2 (Dict.textKey "a") = none ∧
      ((stepEnd "{{ context.update(a=1) }}{{ 1 // 0 }}").world.item? 2 (Dict.textKey "a")).map Value.int? =
        some (some 1) := by
  decide +kernel

end Engine

end Stepwise
