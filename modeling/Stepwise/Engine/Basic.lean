import Stepwise.Engine.Executor
import Stepwise.Recipe.Load
/-!
# Engines

An engine executes the steps of a recipe one after the other over a context. Each step goes to the
executor that is registered for its engine. A step that fails does not end the run: its error is
reported and becomes the output, and the next step follows.
-/

namespace Stepwise

structure Engine where
  settings : EngineSettings
  toolchain : Addr
  /-- Do scripts run in threads of their own? -/
  inThread : Bool
  registry : Registry
  deriving Inhabited

namespace Engine

/-! ## Making engines -/

/-- The registry of an engine that is not given one. Where one name stands for both, scripts win. -/
def ordinaryRegistry (settings : EngineSettings) (toolchain : Addr) (inThread : Bool) :
    Except Registry.Fault Registry := do
  let r ← Registry.register {} settings.renderEngine (.render (.ref toolchain))
  r.register settings.scriptEngine (.script inThread)

/-- An engine; what is not given comes from the settings in force, and the toolchain is the shared one. -/
def make (settings : Option EngineSettings := none) (toolchain : Option Addr := none)
    (inThread : Option Bool := none) (registry : Option Registry := none) : Run Engine := do
  let settings ← match settings with
    | some s => pure s
    | none => do (← configuration).engineSettings
  let toolchain ← match toolchain with
    | some a => pure a
    | none => Toolchain.shared
  let inThread := inThread.getD settings.runInThread
  match registry with
  | some r => return ⟨settings, toolchain, inThread, r⟩
  | none =>
    match ordinaryRegistry settings toolchain inThread with
    | .ok r => return ⟨settings, toolchain, inThread, r⟩
    | .error f => Run.valueError f.message

/-! ## Running recipes -/

/-- A fresh context: the defaults, then the inputs, then the rest, and no output. -/
def buildContext (p : Platform) (recipe : Recipe) (inputs extra : Value) : Run Addr := do
  let defaults ← Run.dict (Dict.ofTexts recipe.defaults.entries)
  Context.build p.machine [defaults, inputs, extra]

/-- Does something for a step. An ordinary error is reported, and its text becomes the output. -/
def guarded {α : Type} (step : Step) (context : Addr) (otherwise : α) (act : Run α) : Run α :=
  Run.recoverOrdinary act fun e => do
    let message ← errorMessage e
    Run.log .error ("Error executing step '" ++ step.name ++ "': " ++ message)
    Context.setOutput context (.str (stepErrorText step.name message))
    return otherwise

/-- Tells that a step begins: the executor for it. -/
def announce (e : Engine) (step : Step) : Run Executor := do
  Run.log .debug ("Executing step '" ++ step.name ++ "' with engine '" ++ step.engine ++ "'")
  return e.registry.get step.engine

/-- One step of a run. -/
def runStep (p : Platform) (e : Engine) (context : Addr) (step : Step) : Run Unit := do
  let x ← e.announce step
  guarded step context () (x.execute p step context)

/-- The steps of a run, in order: what the world is after each. -/
def runSteps (p : Platform) (e : Engine) (context : Addr) : List Step → Run (List World)
  | [] => return []
  | step :: rest => do
    e.runStep p context step
    let after ← Run.world
    return after :: (← e.runSteps p context rest)

/-- Begins a run: its context. -/
def openRun (p : Platform) (recipe : Recipe) (inputs extra : Value) : Run Addr := do
  let context ← buildContext p recipe inputs extra
  Run.log .info ("Starting jinx '" ++ recipe.name ++ "' (" ++ toString recipe.steps.length ++ " steps)")
  return context

def closeRun (recipe : Recipe) : Run Unit := Run.log .info ("Jinx '" ++ recipe.name ++ "' finished")

/-- A run that is over: its context, and what the world was after each step. -/
structure Finished where
  context : Addr
  after : List World

/-- Executes all steps of a recipe. -/
def execute (p : Platform) (e : Engine) (recipe : Recipe) (inputs extra : Value) : Run Finished := do
  let context ← openRun p recipe inputs extra
  let after ← e.runSteps p context recipe.steps
  closeRun recipe
  return ⟨context, after⟩

/-! ## Components of recipes -/

/-- A component with the context that it is rendered with. -/
structure Rendering where
  component : Value
  props : Addr

/-- Renders the component. -/
def Rendering.render (p : Platform) (r : Rendering) : Run Value := p.machine.apply r.component [.ref r.props]

/-- The component of the first render step of a recipe; the other steps are not run. -/
def rendering? (p : Platform) (e : Engine) (recipe : Recipe) (inputs extra : Value) : Run (Option Rendering) := do
  let context ← buildContext p recipe inputs extra
  match recipe.steps.find? (·.engine == e.settings.renderEngine) with
  | none =>
    Run.log .debug ("Jinx '" ++ recipe.name ++ "' has no render step")
    return none
  | some step =>
    let component ← Run.recoverOrdinary (Toolchain.invoke p.machine e.toolchain step.code (.ref context) step.name)
      fun error => do
        Run.log .error ("Cannot render jinx '" ++ recipe.name ++ "': " ++ (← errorMessage error))
        return none
    return component.map fun c => ⟨c, context⟩

end Engine

end Stepwise
