import Stepwise.Proofs.Dispatch
/-!
# When the output is lost

A context begins with an output, but it is a dictionary, and whoever is handed a dictionary can remove what it
holds. `Engine.Takes` says by the kind of executor how a step can end without an error and without an output:
by a script that has removed it, or by a template that has and gives no component. `output_kept_iff` says that
there is no other way, so that the output is there after every step exactly when no step takes it.
-/

namespace Stepwise

/-! ## The output of a context -/

/-- The context holds an output, be it nothing. -/
def World.HasOutput (w : World) (context : Addr) : Prop :=
  (w.item? context (Dict.textKey Context.outputKey)).isSome = true

instance (w : World) (context : Addr) : Decidable (w.HasOutput context) := inferInstanceAs (Decidable (_ = _))

namespace World

/-- What is not in the store does not matter. -/
theorem HasOutput.congr {w w' : World} {context : Addr} (h : w'.store[context]? = w.store[context]?) :
    w'.HasOutput context ↔ w.HasOutput context := by
  simp only [HasOutput, item?, contents?, h]

end World

namespace Dict

theorem get?_putText_self (d : Dict) (id : String) (v : Value) : (d.putText id v).get? (textKey id) = some v := by
  rw [putText, get?_put, if_pos (beq_self_eq_true _)]

end Dict

/-- Writing the output of a context leaves it with one. -/
theorem Context.hasOutput_setOutput {w : World} {context : Addr} (h : w.HasContext context) (v : Value) :
    ∃ w', (setOutput context v).act w = .ok () w' ∧ w'.HasOutput context := by
  obtain ⟨names, d, hd⟩ := h
  obtain ⟨w', hact, hwritten, -⟩ := Run.putItem_act hd outputKey v
  refine ⟨w', hact, ?_⟩
  simp only [World.HasOutput, World.item?, World.contents?, hwritten, Option.bind_some, Dict.get?_putText_self,
    Option.isSome_some]

namespace Executor

variable {p : Platform} {step : Step} {context : Addr}

/-! ## Executors as a whole -/

/-- What becomes of the component of a step: it is kept under the name of the step and as the output. -/
def keep (context : Addr) (step : Step) : Option Value → Run Unit
  | none => Run.log .warning ("Render step '" ++ step.name ++ "' produced no component")
  | some component => do
    Run.putItem context (.str step.name) component
    Context.setOutput context component

/-- A render step asks for the component, waiting for the environment, and keeps it. -/
theorem execute_render (p : Platform) (toolchain : Addr) (step : Step) (context : Addr) :
    (render (.ref toolchain)).execute p step context =
      Toolchain.invoke p.machine toolchain step.code (.ref context) step.name >>= keep context step := by
  have hinvoke : Toolchain.invoke p.machine toolchain step.code (.ref context) step.name >>= keep context step =
      Toolchain.ensureInitialized toolchain >>= fun _ => placeComponent p toolchain step context := by
    rw [Toolchain.invoke, bind_assoc]
    refine congrArg (Toolchain.ensureInitialized toolchain >>= ·) (funext fun _ => ?_)
    refine congrArg (Toolchain.produce p.machine toolchain step.code (.ref context) step.name >>= ·) (funext fun c => ?_)
    cases c <;> rfl
  rw [hinvoke]
  refine Run.ext fun t w => ?_
  simp only [execute, start, Toolchain.ensureInitialized, Run.bind_actIn]
  cases (Toolchain.enter toolchain).actIn t w with
  | error f w₁ => rfl
  | ok number w₁ =>
    cases number with
    | none =>
      simp only [Run.bind_actIn, Run.pure_actIn]
      cases (placeComponent p toolchain step context).actIn t w₁ <;> rfl
    | some k =>
      simp only [Run.pure_actIn, Run.bind_actIn, Pause.await, finish]
      cases (Toolchain.runLoad toolchain k).actIn t w₁ with
      | error f w₂ => rfl
      | ok u w₂ => rfl

/-- A script step runs its script, in whichever thread. -/
theorem execute_script (p : Platform) (inThread : Bool) (step : Step) (context : Addr) :
    (script inThread).execute p step context =
      ScriptEngine.execute p.machine p.host inThread step.code (.ref context) step.name := by
  refine Run.ext fun t w => ?_
  simp only [execute, start, ScriptEngine.execute, Run.bind_actIn]
  cases (ScriptEngine.start p.machine inThread step.code (.ref context) step.name).actIn t w with
  | error f w₁ => rfl
  | ok result w₁ =>
    cases inThread with
    | true => rfl
    | false =>
      simp only [Bool.false_eq_true, if_false, Run.bind_actIn, Run.pure_actIn]
      cases (ScriptEngine.finish p.host false step.name result).actIn t w₁ <;> rfl

/-- A step of the host's own executor is its work, now or at its next turn. -/
theorem execute_host (p : Platform) (id : String) (step : Step) (context : Addr) :
    (host id).execute p step context = (p.executor id).execute step context := by
  refine Run.ext fun t w => ?_
  simp only [execute, start, Run.bind_actIn]
  cases (p.executor id).waits with
  | true => rfl
  | false =>
    simp only [Bool.false_eq_true, if_false, Run.bind_actIn, Run.pure_actIn]
    cases ((p.executor id).execute step context).actIn t w <;> rfl

/-! ## Taking the output -/

/-- The executor ends without an error, and the context has no output then. That is so of a script that has
removed it, and of a template that has and gives no component; skipping a step removes nothing, and what is no
toolchain compiles nothing. -/
def Takes (p : Platform) (context : Addr) (step : Step) (w : World) : Executor → Prop
  | skip => False
  | render (.ref toolchain) => ∃ left,
      (Toolchain.invoke p.machine toolchain step.code (.ref context) step.name).act w = .ok none left ∧
        ¬ left.HasOutput context
  | render _ => False
  | script inThread => ∃ left,
      (ScriptEngine.execute p.machine p.host inThread step.code (.ref context) step.name).act w = .ok () left ∧
        ¬ left.HasOutput context
  | host id => ∃ left, ((p.executor id).execute step context).act w = .ok () left ∧ ¬ left.HasOutput context

/-- A component that is kept leaves an output, and what is not there changes nothing. -/
theorem keep_act {w : World} (hw : w.HasContext context) (step : Step) (component : Option Value) :
    ∃ w', (keep context step component).act w = .ok () w' ∧
      (w'.HasOutput context ↔ component.isSome = true ∨ w.HasOutput context) := by
  cases component with
  | none =>
    refine ⟨_, rfl, (World.HasOutput.congr rfl).trans ⟨.inr, fun h => ?_⟩⟩
    exact h.resolve_left (nomatch ·)
  | some c =>
    obtain ⟨w₁, hput⟩ : ∃ w₁, (Run.putItem context (.str step.name) c).act w = .ok () w₁ := ⟨_, rfl⟩
    have hgrows := (Run.putItem context (.str step.name) c).grows w
    rw [hput] at hgrows
    obtain ⟨w₂, hset, hout⟩ := Context.hasOutput_setOutput (hw.grows hgrows) c
    refine ⟨w₂, ?_, fun _ => .inl rfl, fun _ => hout⟩
    rw [keep, Run.bind_act, hput]
    exact hset

/-- **To take the output is to end without an error and without an output**, whatever the executor. -/
theorem takes_iff {x : Executor} {w : World} (hw : w.HasContext context) (hout : w.HasOutput context) :
    Takes p context step w x ↔ ∃ w', (x.execute p step context).act w = .ok () w' ∧ ¬ w'.HasOutput context := by
  cases x with
  | skip =>
    refine iff_of_false id ?_
    rintro ⟨w', hend, hno⟩
    cases hend
    exact hno hout
  | script inThread =>
    rw [execute_script]
    exact Iff.rfl
  | host id =>
    rw [execute_host]
    exact Iff.rfl
  | render v =>
    cases v with
    | ref toolchain =>
      rw [execute_render, Run.bind_act, Takes]
      have hgrows := (Toolchain.invoke p.machine toolchain step.code (.ref context) step.name).grows w
      cases hend : (Toolchain.invoke p.machine toolchain step.code (.ref context) step.name).act w with
      | error f left =>
        refine iff_of_false ?_ ?_ <;> rintro ⟨w', heq, -⟩ <;> cases heq
      | ok component left =>
        rw [hend] at hgrows
        have hleft : left.HasContext context := hw.grows hgrows
        obtain ⟨w₁, hkeep, hiff⟩ := keep_act hleft step component
        dsimp only
        rw [hkeep]
        -- a component is written as the output, so only a template without one can take it
        cases component with
        | none =>
          have hsame : w₁.HasOutput context ↔ left.HasOutput context := hiff.trans (or_iff_right (nomatch ·))
          constructor
          · rintro ⟨_, ⟨⟩, hno⟩
            exact ⟨w₁, rfl, fun h => hno (hsame.1 h)⟩
          · rintro ⟨_, ⟨⟩, hno⟩
            exact ⟨left, rfl, fun h => hno (hsame.2 h)⟩
        | some c =>
          refine iff_of_false ?_ ?_
          · rintro ⟨_, heq, -⟩
            cases heq
          · rintro ⟨_, ⟨⟩, hno⟩
            exact hno (hiff.2 (.inl rfl))
    | _ =>
      refine iff_of_false id ?_
      rintro ⟨w', hend, -⟩
      cases hend

end Executor

namespace Engine

variable {p : Platform} {e : Engine} {context : Addr}

/-! ## Steps -/

/-- The step takes the output of the context: the executor for it does. -/
def Takes (p : Platform) (e : Engine) (context : Addr) (step : Step) (w : World) : Prop :=
  Executor.Takes p context step (w.telling step) (e.registry.get step.engine)

/-- **After a step there is an output unless the step takes it**, for a step that fails writes one. -/
theorem hasOutput_runStep_iff {step : Step} {w w' : World} (hw : w.HasContext context) (hout : w.HasOutput context)
    (h : (e.runStep p context step).act w = .ok () w') : w'.HasOutput context ↔ ¬ Takes p e context step w := by
  have htold : (w.telling step).HasContext context := hw
  have hthere : (w.telling step).HasOutput context := hout
  rw [Takes, Executor.takes_iff htold hthere]
  cases turn_of_runStep hw h with
  | returned hend =>
    constructor
    · rintro hw' ⟨left, hleft, hno⟩
      cases hend.symm.trans hleft
      exact hno hw'
    · intro hnot
      exact Decidable.byContradiction fun hno => hnot ⟨w', hend, hno⟩
  | raised hend _ hitem _ _ =>
    refine iff_of_true ?_ ?_
    · have hkey : w'.item? context (Dict.textKey Context.outputKey) = _ := hitem
      rw [World.HasOutput, hkey]
      rfl
    · rintro ⟨left, hleft, -⟩
      cases hend.symm.trans hleft

/-! ## Runs -/

/-- No step takes the output, each in the world that the ones before leave. -/
def NoneTakes (p : Platform) (e : Engine) (context : Addr) : List Step → World → Prop
  | [], _ => True
  | step :: rest, w => ¬ Takes p e context step w ∧
      NoneTakes p e context rest ((e.runStep p context step).act w).world

/-- **After every step there is an output exactly when none takes it.** -/
theorem hasOutput_runSteps_iff {steps : List Step} {w w' : World} {after : List World} (hw : w.HasContext context)
    (hout : w.HasOutput context) (h : (e.runSteps p context steps).act w = .ok after w') :
    (∀ v ∈ after, v.HasOutput context) ↔ NoneTakes p e context steps w := by
  induction steps generalizing w after with
  | nil =>
    cases h
    exact iff_of_true (List.forall_mem_nil _) trivial
  | cons step rest ih =>
    cases hrun : (e.runStep p context step).act w with
    | error f w₁ =>
      rw [runSteps, Run.bind_act, hrun] at h
      cases h
    | ok u w₁ =>
      rw [runSteps_cons_act hrun] at h
      have hgrows := (e.runStep p context step).grows w
      rw [hrun] at hgrows
      have hstep := hasOutput_runStep_iff hw hout hrun
      rw [NoneTakes, hrun, ← hstep]
      cases hrest : (e.runSteps p context rest).act w₁ with
      | error f w₂ =>
        rw [hrest] at h
        cases h
      | ok later w₂ =>
        rw [hrest] at h
        cases h
        rw [List.forall_mem_cons]
        exact and_congr_right fun hthere => ih (hw.grows hgrows) hthere hrest

/-! ## The context of a run -/

/-- A run begins with an output, which is nothing. -/
theorem hasOutput_opened (w : World) (recipe : Recipe) (ins ext : List (Key × Value × Value)) :
    (opened w recipe ins ext).HasOutput (w.store.size + 1) := by
  simp only [World.HasOutput, World.item?, World.contents?, opened_get, Option.bind_some, firstContents,
    Context.contents, Dict.get?_putText_self, Option.isSome_some]

/-- The world that a run leaves behind its steps is the last one after a step. -/
theorem eq_last_of_runSteps {steps : List Step} {w w' : World} {after : List World}
    (h : (e.runSteps p context steps).act w = .ok after w') : w' = after.getLastD w := by
  induction steps generalizing w after with
  | nil =>
    cases h
    rfl
  | cons step rest ih =>
    cases hrun : (e.runStep p context step).act w with
    | error f w₁ =>
      rw [runSteps, Run.bind_act, hrun] at h
      cases h
    | ok u w₁ =>
      rw [runSteps_cons_act hrun] at h
      cases hrest : (e.runSteps p context rest).act w₁ with
      | error f w₂ =>
        rw [hrest] at h
        cases h
      | ok later w₂ =>
        rw [hrest] at h
        cases h
        rw [List.getLastD_cons]
        exact ih hrest

/-- **A run keeps its output exactly as long as no step takes it.** Over any mappings it begins with one. At
whatever step it has arrived, there has been an output after each step exactly when none of these steps took
it; and so it is of a run that is over, whose context then has an output too. Only a script that has removed
it and a template that has and gives no component take it: a step that fails leaves the output that tells of
the error. -/
theorem output_kept_iff (p : Platform) (e : Engine) (recipe : Recipe) {inputs extra : Value} {w : World}
    {ins ext : List (Key × Value × Value)} (hin : w.Layer inputs ins) (hext : w.Layer extra ext) :
    let context := w.store.size + 1
    let begun := opened w recipe ins ext
    begun.HasOutput context ∧
    (∀ xs ys after left, recipe.steps = xs ++ ys → (e.runSteps p context xs).act begun = .ok after left →
      ((∀ v ∈ after, v.HasOutput context) ↔ NoneTakes p e context xs begun)) ∧
    ∀ run w', (e.execute p recipe inputs extra).act w = .ok run w' → run.context = context ∧
      ((∀ v ∈ run.after, v.HasOutput context) ↔ NoneTakes p e context recipe.steps begun) ∧
      (NoneTakes p e context recipe.steps begun → w'.HasOutput context) := by
  intro context begun
  have hcontext : begun.HasContext context := hasContext_opened w recipe ins ext
  have hout : begun.HasOutput context := hasOutput_opened w recipe ins ext
  refine ⟨hout, fun _ _ _ _ _ hrun => hasOutput_runSteps_iff hcontext hout hrun, fun run w' hrun => ?_⟩
  rw [execute, Run.bind_act, openRun_act hin hext] at hrun
  simp only [Run.bind_act] at hrun
  cases hsteps : (e.runSteps p (w.store.size + 1) recipe.steps).act (opened w recipe ins ext) with
  | error f left =>
    rw [hsteps] at hrun
    cases hrun
  | ok after left =>
    rw [hsteps] at hrun
    cases hrun
    have hiff := hasOutput_runSteps_iff hcontext hout hsteps
    refine ⟨rfl, hiff, fun hnone => ?_⟩
    have hall : ∀ v ∈ begun :: after, v.HasOutput context := List.forall_mem_cons.2 ⟨hout, hiff.2 hnone⟩
    have hlast : left.HasOutput context := by
      rw [eq_last_of_runSteps hsteps]
      exact hall _ (List.getLastD_mem_cons ..)
    exact (World.HasOutput.congr rfl).2 hlast

/-! ## Runs that keep it and runs that do not -/

/-- Whether there is an output after each step of a run, and at its end. -/
def outputs? (recipe : Recipe) : Option (List Bool × Bool) :=
  match (bare.execute barePlatform recipe .null .null).act bareWorld with
  | .ok run w => some (run.after.map fun v => decide (v.HasOutput run.context), decide (w.HasOutput run.context))
  | .error .. => none

theorem exists_of_outputs? {recipe : Recipe} {had : List Bool} {has : Bool} (h : outputs? recipe = some (had, has)) :
    ∃ run w', (bare.execute barePlatform recipe .null .null).act bareWorld = .ok run w' ∧
      run.after.map (fun v => decide (v.HasOutput run.context)) = had := by
  rw [outputs?] at h
  cases hend : (bare.execute barePlatform recipe .null .null).act bareWorld with
  | ok run w' =>
    rw [hend] at h
    exact ⟨run, w', rfl, congrArg Prod.fst (Option.some.inj h)⟩
  | error f w' =>
    rw [hend] at h
    cases h

/-- A script that clears the context takes the output, but not if it fails behind that. -/
theorem clearing_takes_unless_failing :
    NoneTakes barePlatform bare 2 (scripts ["context.clear()\n1 / 0"]).steps
      (opened bareWorld (scripts ["context.clear()\n1 / 0"]) [] []) ∧
    ¬ NoneTakes barePlatform bare 2 (scripts ["context.clear()"]).steps
      (opened bareWorld (scripts ["context.clear()"]) [] []) := by
  have hfailing : outputs? (scripts ["context.clear()\n1 / 0"]) = some ([true], true) := by decide +kernel
  have hclearing : outputs? (scripts ["context.clear()"]) = some ([false], false) := by decide +kernel
  constructor
  · obtain ⟨run, w', hrun, hhad⟩ := exists_of_outputs? hfailing
    obtain ⟨hcontext, hiff, -⟩ := (output_kept_iff barePlatform bare _ .nothing .nothing).2.2 run w' hrun
    rw [hcontext] at hhad
    refine hiff.1 fun v hv => ?_
    have hmem := List.mem_map_of_mem hv (f := fun v => decide (v.HasOutput (bareWorld.store.size + 1)))
    rw [hhad, List.mem_singleton] at hmem
    exact of_decide_eq_true hmem
  · obtain ⟨run, w', hrun, hhad⟩ := exists_of_outputs? hclearing
    obtain ⟨hcontext, hiff, -⟩ := (output_kept_iff barePlatform bare _ .nothing .nothing).2.2 run w' hrun
    rw [hcontext] at hhad
    intro hnone
    obtain ⟨v, hv, hno⟩ : ∃ v ∈ run.after, decide (v.HasOutput (bareWorld.store.size + 1)) = false := by
      rw [← List.mem_map, hhad]
      exact List.mem_singleton_self false
    exact of_decide_eq_false hno (hiff.2 hnone v hv)

/-- **The output can be lost**: a script that removes it leaves a run without. -/
theorem output_lost_of_pop : outputs? (scripts ["context.pop('output')"]) = some ([false], false) := by
  decide +kernel

end Engine
end Stepwise
