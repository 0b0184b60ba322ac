import Stepwise.Proofs.Failing
/-!
# Asking for a component beside executing a step

A component can be had in two ways: it is asked for, and then only the first render step counts, or that step is
executed and keeps it in the context. Both hand the same template to the toolchain, and `Engine.Compares` says by
the end of that how both go on. `rendering_compares` says that nothing else matters: not the other steps, and of
the engine only its toolchain.
-/

namespace Stepwise

/-- The recipe with one step only. -/
def Recipe.only (recipe : Recipe) (step : Step) : Recipe := { recipe with steps := [step] }

namespace World

/-- The world when the beginnings of a run and of its only step have been told. -/
def heralding (w : World) (recipe : Recipe) (step : Step) : World :=
  let begun : World := { w with log := w.log.push ⟨.info,
    "Starting jinx '" ++ recipe.name ++ "' (" ++ toString recipe.steps.length ++ " steps)"⟩ }
  begun.telling step

theorem Layer.heralding {w : World} {v : Value} {entries : List (Key × Value × Value)} (h : w.Layer v entries)
    (recipe : Recipe) (step : Step) : (w.heralding recipe step).Layer v entries := by
  cases h with
  | nothing => exact .nothing
  | mapping ha hkeys =>
    refine .mapping ha fun entry hentry => (hkeys entry hentry).grows ?_
    exact (Grows.report w _).trans (Grows.report { w with log := w.log.push _ } _)

end World

/-- What is registered stands for its engine, and for no other. -/
theorem Registry.get_register {r r' : Registry} {name : String} {x : Executor} (h : r.register name x = .ok r')
    (engine : String) : r'.get engine = if engine == name then x else r.get engine := by
  rw [register] at h
  split at h
  · cases h
  · cases h
    rw [get, OrderedMap.find?_insert]
    split <;> rfl

namespace Engine

variable {p : Platform} {e : Engine} {context : Addr} {step : Step} {w : World}

/-! ## Which executor -/

/-- Where the names differ the ordinary registry hands render steps to the toolchain of the engine. -/
theorem get_ordinaryRegistry {settings : EngineSettings} {toolchain : Addr} {inThread : Bool} {r : Registry}
    (h : ordinaryRegistry settings toolchain inThread = .ok r)
    (hnames : settings.renderEngine ≠ settings.scriptEngine) :
    r.get settings.renderEngine = .render (.ref toolchain) := by
  rw [ordinaryRegistry] at h
  cases hfirst : Registry.register {} settings.renderEngine (.render (.ref toolchain)) with
  | error f =>
    rw [hfirst] at h
    cases h
  | ok r₁ =>
    rw [hfirst] at h
    rw [Registry.get_register h, if_neg (by simpa using hnames), Registry.get_register hfirst,
      if_pos (beq_self_eq_true _)]

/-! ## One step, asked for and executed -/

/-- How asking for the component of a step and executing the step go on, by how its template ended. -/
inductive Compares (context : Addr) (step : Step) :
    Ending (Option Value) → Ending (Option Rendering) → Ending Unit → Prop
  /-- There is a component. It is the answer, with the context as the template left it; the step keeps it in that
  context under its own name and as the output, and writes nothing else. -/
  | component {k : Value} {left w' : World} :
      (∀ key, w'.item? context key =
        if key == Dict.textKey step.name || key == Dict.textKey "output" then some k else left.item? context key) →
      (∀ a, a ≠ context → w'.store[a]? = left.store[a]?) →
      Compares context step (.ok (some k) left) (.ok (some ⟨k, context⟩) left) (.ok () w')
  /-- There is none. There is no answer, and the step leaves what the template left. -/
  | nothing {left w' : World} : w'.store = left.store →
      Compares context step (.ok none left) (.ok none left) (.ok () w')
  /-- An error was raised that is handled. There is no answer, and the output tells of the error. -/
  | handled {error : Addr} {left told w' : World} {message : String} : left.IsOrdinary error →
      (errorMessage error).act left = .ok message left → told.store = left.store →
      (∀ key, w'.item? context key = if key == Dict.textKey "output"
        then some (.str ("Error in step '" ++ step.name ++ "': " ++ message)) else left.item? context key) →
      (∀ a, a ≠ context → w'.store[a]? = left.store[a]?) →
      Compares context step (.error (.raised error) left) (.ok none told) (.ok () w')
  /-- It would be handled, but its text cannot be told: both end with what came up instead. -/
  | untold {error : Addr} {left left' : World} {f : Failure} : left.IsOrdinary error →
      (errorMessage error).act left = .error f left' →
      Compares context step (.error (.raised error) left) (.error f left') (.error f left')
  /-- It is not handled, and both end with it. -/
  | passed {error : Addr} {left : World} : ¬ left.IsOrdinary error →
      Compares context step (.error (.raised error) left) (.error (.raised error) left) (.error (.raised error) left)
  | cut {left : World} :
      Compares context step (.error .exhausted left) (.error .exhausted left) (.error .exhausted left)

/-- **There is an answer exactly if the step keeps the component that its template gave.** -/
theorem Compares.answers_iff {x : Ending (Option Value)} {r : Ending (Option Rendering)} {y : Ending Unit}
    (h : Compares context step x r y) :
    (∃ answer v, r = .ok (some answer) v) ↔ ∃ k left w', x = .ok (some k) left ∧ y = .ok () w' ∧
      w'.item? context (Dict.textKey step.name) = some k ∧ w'.item? context (Dict.textKey "output") = some k := by
  cases h with
  | @component k left w' hitems _ =>
    refine iff_of_true ⟨_, _, rfl⟩ ⟨k, left, w', rfl, rfl, ?_, ?_⟩
    · rw [hitems, if_pos (by simp)]
    · rw [hitems, if_pos (by simp)]
  | _ =>
    refine iff_of_false ?_ ?_
    · rintro ⟨_, _, heq⟩
      cases heq
    · rintro ⟨_, _, _, heq, -⟩
      cases heq

/-- What is asked of a toolchain for a step. -/
def componentOf (p : Platform) (e : Engine) (context : Addr) (step : Step) : Run (Option Value) :=
  Toolchain.invoke p.machine e.toolchain step.code (.ref context) step.name

/-- The component of a step, if it has one, where errors are handled; the recipe is named in the report. -/
def asked (p : Platform) (e : Engine) (recipe : Recipe) (context : Addr) (step : Step) : Run (Option Rendering) := do
  let component ← Run.recoverOrdinary (componentOf p e context step) fun error => do
    Run.log .error ("Cannot render jinx '" ++ recipe.name ++ "': " ++ (← errorMessage error))
    return none
  return component.map fun c => ⟨c, context⟩

/-- What is kept stands under the name of the step and as the output, and nothing else is written. -/
theorem keep_some_act (hw : w.HasContext context) (step : Step) (k : Value) :
    ∃ w', (Executor.keep context step (some k)).act w = .ok () w' ∧
      (∀ key, w'.item? context key =
        if key == Dict.textKey step.name || key == Dict.textKey "output" then some k else w.item? context key) ∧
      ∀ a, a ≠ context → w'.store[a]? = w.store[a]? := by
  obtain ⟨names, d, hd⟩ := hw
  obtain ⟨w₁, hname, hd₁, hothers₁⟩ := Run.putItem_act hd step.name k
  obtain ⟨w₂, houtput, hd₂, hothers₂⟩ := Run.putItem_act hd₁ Context.outputKey k
  refine ⟨w₂, ?_, fun key => ?_, fun a ha => (hothers₂ a ha).trans (hothers₁ a ha)⟩
  · rw [Executor.keep, Run.bind_act, hname]
    exact houtput
  · simp only [World.item?, World.contents?, hd₂, hd, Option.bind_some, Dict.putText, Dict.get?_put, Context.outputKey]
    cases key == Dict.textKey "output" <;> cases key == Dict.textKey step.name <;> rfl

theorem attempt_act (hx : e.registry.get step.engine = .render (.ref e.toolchain)) :
    (attempt p e context step).act w =
      (componentOf p e context step >>= Executor.keep context step).act (w.telling step) := by
  have htold : (attempt p e context step).act w =
      ((e.registry.get step.engine).execute p step context).act (w.telling step) := rfl
  rw [htold, hx, Executor.execute_render]
  rfl

/-- **The same template goes on in both ways as it ended.** -/
theorem compares_asked_runStep (hw : w.HasContext context)
    (hx : e.registry.get step.engine = .render (.ref e.toolchain)) (recipe : Recipe) :
    Compares context step ((componentOf p e context step).act (w.telling step))
      ((asked p e recipe context step).act (w.telling step)) ((e.runStep p context step).act w) := by
  have hsettles := settles_runStep p e context step w
  rw [attempt_act hx, Run.bind_act] at hsettles
  rw [asked, Run.bind_act]
  generalize (e.runStep p context step).act w = y at hsettles ⊢
  have htold : (w.telling step).HasContext context := hw
  have hgrows := (componentOf p e context step).grows (w.telling step)
  rcases hend : (componentOf p e context step).act (w.telling step) with ⟨_ | k, left⟩ | ⟨error | _, left⟩
  case ok.none =>
    rw [hend] at hsettles
    rw [Run.recoverOrdinary_ok hend]
    cases hsettles
    exact .nothing rfl
  case ok.some =>
    rw [hend] at hsettles hgrows
    rw [Run.recoverOrdinary_ok hend]
    have hleft : left.HasContext context := htold.grows hgrows
    obtain ⟨w', hkeep, hitems, hothers⟩ := keep_some_act hleft step k
    dsimp only at hsettles
    rw [hkeep] at hsettles
    cases hsettles
    exact .component hitems hothers
  case error.exhausted =>
    rw [hend] at hsettles
    rw [Run.recoverOrdinary_exhausted hend]
    cases hsettles
    exact .cut
  case error.raised =>
    rw [hend] at hsettles hgrows
    cases hsettles with
    | passed ho =>
      rw [Run.recoverOrdinary_passed hend ho]
      exact .passed ho
    | untold ho hm =>
      rw [Run.recoverOrdinary_handled hend ho, Run.bind_act, hm]
      exact .untold ho hm
    | reported ho hm hreport =>
      obtain rfl := eq_of_errorMessage hm
      obtain ⟨w', hact, hitems, hothers⟩ := report_act (htold.grows hgrows) step _
      cases hact.symm.trans hreport
      rw [Run.recoverOrdinary_handled hend ho, Run.bind_act, hm]
      exact .handled ho hm rfl hitems hothers

/-! ## Recipes -/

/-- The first render step of a recipe. -/
def renderStep? (e : Engine) (recipe : Recipe) : Option Step :=
  recipe.steps.find? (·.engine == e.settings.renderEngine)

theorem engine_of_renderStep? {recipe : Recipe} (h : e.renderStep? recipe = some step) :
    step.engine = e.settings.renderEngine := by
  rw [renderStep?] at h
  simpa using List.find?_some h

theorem renderStep?_only {recipe : Recipe} (h : e.renderStep? recipe = some step) :
    e.renderStep? (recipe.only step) = some step :=
  List.find?_cons_of_pos (beq_iff_eq.2 (engine_of_renderStep? h))

theorem rendering?_eq (p : Platform) (e : Engine) (recipe : Recipe) (inputs extra : Value) {step : Step}
    (hfirst : e.renderStep? recipe = some step) :
    e.rendering? p recipe inputs extra =
      buildContext p recipe inputs extra >>= fun context => asked p e recipe context step := by
  rw [renderStep?] at hfirst
  simp only [rendering?, hfirst, asked, componentOf]

/-- **The other steps do not matter**: the component is that of the recipe with the first render step only. -/
theorem rendering?_only (p : Platform) (e : Engine) (recipe : Recipe) (inputs extra : Value) {step : Step}
    (hfirst : e.renderStep? recipe = some step) :
    e.rendering? p recipe inputs extra = e.rendering? p (recipe.only step) inputs extra := by
  rw [rendering?_eq p e recipe inputs extra hfirst, rendering?_eq p e _ inputs extra (renderStep?_only hfirst)]
  rfl

section

variable {recipe : Recipe} {inputs extra : Value} {ins ext : List (Key × Value × Value)}

/-- Over mappings the component is asked for with the first context of a run. -/
theorem rendering?_act (hin : w.Layer inputs ins) (hext : w.Layer extra ext)
    (hfirst : e.renderStep? recipe = some step) :
    (e.rendering? p recipe inputs extra).act w =
      (asked p e recipe (w.store.size + 1) step).act (withContext w recipe ins ext) := by
  rw [rendering?_eq p e recipe inputs extra hfirst, Run.bind_act, buildContext_act p recipe hin hext]

/-- Without a render step nothing is asked for. -/
theorem rendering?_none (hin : w.Layer inputs ins) (hext : w.Layer extra ext)
    (hnone : e.renderStep? recipe = none) :
    (e.rendering? p recipe inputs extra).act w = .ok none { withContext w recipe ins ext with
      log := w.log.push ⟨.debug, "Jinx '" ++ recipe.name ++ "' has no render step"⟩ } := by
  rw [renderStep?] at hnone
  rw [rendering?, Run.bind_act, buildContext_act p recipe hin hext]
  simp only [hnone]
  rfl

/-- How a run of one step ends, by how the step does. -/
def afterOnly (recipe : Recipe) (context : Addr) : Ending Unit → Ending Finished
  | .ok _ w => .ok ⟨context, [w]⟩ (w.closing recipe)
  | .error f w => .error f w

theorem execute_only_act (hin : w.Layer inputs ins) (hext : w.Layer extra ext) (step : Step) :
    (e.execute p (recipe.only step) inputs extra).act w = afterOnly recipe (w.store.size + 1)
      ((e.runStep p (w.store.size + 1) step).act (opened w (recipe.only step) ins ext)) := by
  have hsteps : (recipe.only step).steps = [step] := rfl
  rw [execute, Run.bind_act, openRun_act hin hext]
  simp only [hsteps, Run.bind_act, runSteps, Run.world_act, Run.pure_act]
  cases (e.runStep p (w.store.size + 1) step).act (opened w (recipe.only step) ins ext) <;> rfl

theorem contents?_opened (w : World) (recipe : Recipe) (ins ext : List (Key × Value × Value)) :
    (opened w recipe ins ext).contents? (w.store.size + 1) = some (firstContents recipe ins ext) := by
  rw [World.contents?, opened_get]

end

/-- **A component is that of the first render step, and there is one exactly if that step makes one.** An engine with
the ordinary registry, whose engines have two names, is asked for the component of a recipe over any mappings.
Without a render step there is none. Otherwise it does what it does for the recipe with the first render step only,
in every world; and in the world in which the beginnings of that run have been told, it and the run go on as the
template ended that both hand to the toolchain, with the first context of the run. -/
theorem rendering_compares (p : Platform) {e : Engine}
    (hregistry : ordinaryRegistry e.settings e.toolchain e.inThread = .ok e.registry)
    (hnames : e.settings.renderEngine ≠ e.settings.scriptEngine) (recipe : Recipe) {inputs extra : Value} {w : World}
    {ins ext : List (Key × Value × Value)} (hin : w.Layer inputs ins) (hext : w.Layer extra ext) :
    (e.renderStep? recipe = none →
      (e.rendering? p recipe inputs extra).act w = .ok none { withContext w recipe ins ext with
        log := w.log.push ⟨.debug, "Jinx '" ++ recipe.name ++ "' has no render step"⟩ }) ∧
    ∀ step, e.renderStep? recipe = some step →
      let one := recipe.only step
      let context := w.store.size + 1
      let begun := (opened w one ins ext).telling step
      e.rendering? p recipe inputs extra = e.rendering? p one inputs extra ∧
      begun.contents? context = some (firstContents recipe ins ext) ∧
      ∃ ending, (e.execute p one inputs extra).act w = afterOnly recipe context ending ∧
        Compares context step ((componentOf p e context step).act begun)
          ((e.rendering? p recipe inputs extra).act (w.heralding one step)) ending ∧
        ((∃ answer v, (e.rendering? p recipe inputs extra).act (w.heralding one step) = .ok (some answer) v) ↔
          ∃ k left w', (componentOf p e context step).act begun = .ok (some k) left ∧ ending = .ok () w' ∧
            w'.item? context (Dict.textKey step.name) = some k ∧
            w'.item? context (Dict.textKey "output") = some k) := by
  refine ⟨rendering?_none hin hext, fun step hfirst => ?_⟩
  have hx : e.registry.get step.engine = .render (.ref e.toolchain) := by
    rw [engine_of_renderStep? hfirst]
    exact get_ordinaryRegistry hregistry hnames
  have hcompares : Compares (w.store.size + 1) step
      ((componentOf p e (w.store.size + 1) step).act ((opened w (recipe.only step) ins ext).telling step))
      ((e.rendering? p recipe inputs extra).act (w.heralding (recipe.only step) step))
      ((e.runStep p (w.store.size + 1) step).act (opened w (recipe.only step) ins ext)) := by
    rw [rendering?_act (hin.heralding _ step) (hext.heralding _ step) hfirst]
    exact compares_asked_runStep (hasContext_opened w (recipe.only step) ins ext) hx recipe
  exact ⟨rendering?_only p e recipe inputs extra hfirst, contents?_opened w _ ins ext, _,
    execute_only_act hin hext step, hcompares, hcompares.answers_iff⟩

/-! ## A component with and without an answer -/

/-- A script that fails in front of a render step. -/
def scriptBefore : Recipe := ⟨"mixed", "", [], [⟨"before", "python", "1 / 0"⟩, templateStep "x"], .null⟩

/-- The script in front of it does not matter to the component. -/
theorem rendering_without_script :
    let one := scriptBefore.only (templateStep "x")
    bare.rendering? barePlatform scriptBefore .null .null = bare.rendering? barePlatform one .null .null ∧
    ∃ ending, (bare.execute barePlatform one .null .null).act bareWorld = afterOnly scriptBefore 2 ending ∧
      Compares 2 (templateStep "x")
        ((componentOf barePlatform bare 2 (templateStep "x")).act
          ((opened bareWorld one [] []).telling (templateStep "x")))
        ((bare.rendering? barePlatform scriptBefore .null .null).act (bareWorld.heralding one (templateStep "x")))
        ending := by
  have hregistry : ordinaryRegistry bare.settings bare.toolchain bare.inThread = .ok bare.registry := rfl
  have hnames : bare.settings.renderEngine ≠ bare.settings.scriptEngine := by decide
  have hfirst : bare.renderStep? scriptBefore = some (templateStep "x") := by decide
  obtain ⟨-, hall⟩ := rendering_compares barePlatform hregistry hnames scriptBefore (w := bareWorld) .nothing .nothing
  obtain ⟨hsame, -, ending, hexecute, hcompares, -⟩ := hall _ hfirst
  exact ⟨hsame, ending, hexecute, hcompares⟩

/-- A template that writes a function where components are kept, and fails. -/
def leftover : Recipe :=
  ⟨"leftover", "", [], [templateStep "{{ context.update(s=range, output=range) }}{{ 1 // 0 }}"], .null⟩

/-- Whether what stands under a key behind a run can be called. -/
def callableAfter? (recipe : Recipe) (id : String) : Option Bool :=
  match (bare.execute barePlatform recipe .null .null).act bareWorld with
  | .ok run w => (w.item? run.context (Dict.textKey id)).bind fun v => (v.isCallable.act w).result?
  | .error .. => none

/-- **A component can stand in both places though there is no answer.** -/
theorem leftover_without_answer :
    ((bare.rendering? barePlatform leftover .null .null).act bareWorld).result?.map Option.isNone = some true ∧
      callableAfter? leftover "s" = some true ∧ callableAfter? leftover "output" = some true := by
  decide +kernel

end Engine

end Stepwise
