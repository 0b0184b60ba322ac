import Stepwise.Context.Basic
import Stepwise.Engine.Registry
import Stepwise.Engine.ScriptEngine
import Stepwise.Engine.Toolchain
/-!
# Executing a step

An executor starts a step and, where it has to wait for something, finishes it later. A step of an
executor that need not wait is over when it has started.
-/

namespace Stepwise

/-- An executor of the host application. -/
structure OwnExecutor where
  /-- Does it wait for its next turn before it does anything? -/
  waits : Bool
  execute : Step → Addr → Run Unit

/-- What engines run on: the evaluator, the functions of the host application and its executors, by name. -/
structure Platform where
  machine : Machine
  host : Host
  executor : String → OwnExecutor

/-- What a step that has started waits for. -/
inductive Pause where
  | load (toolchain : Addr) (number : Nat)
  /-- A script in a thread of its own, which ends so. -/
  | thread (result : Except Addr Value)
  | turn

namespace Executor

/-- Turns the code of a step into a component, which becomes the output and is kept under the name of
the step. A step without component leaves the context as it is. -/
def placeComponent (p : Platform) (toolchain : Addr) (step : Step) (context : Addr) : Run Unit := do
  match ← Toolchain.produce p.machine toolchain step.code (.ref context) step.name with
  | none => Run.log .warning ("Render step '" ++ step.name ++ "' produced no component")
  | some component => do
    Run.putItem context (.str step.name) component
    Context.setOutput context component

/-- Starts a step. -/
def start (p : Platform) (x : Executor) (step : Step) (context : Addr) : Run (Option Pause) := do
  match x with
  | skip =>
    Run.log .warning ("Unknown engine '" ++ step.engine ++ "' in step '" ++ step.name ++ "'")
    return none
  | render (.ref toolchain) =>
    match ← Toolchain.enter toolchain with
    | some number => return some (.load toolchain number)
    | none => do
      placeComponent p toolchain step context
      return none
  | render v => Run.attributeError ("'" ++ (← v.kindName) ++ "' object has no attribute 'compile_and_invoke'")
  | script inThread =>
    let result ← ScriptEngine.start p.machine inThread step.code (.ref context) step.name
    if inThread then return some (.thread result)
    ScriptEngine.finish p.host inThread step.name result
    return none
  | host id =>
    let own := p.executor id
    if own.waits then return some .turn
    own.execute step context
    return none

/-- Finishes a step when what it waited for is there. -/
def finish (p : Platform) (x : Executor) (step : Step) (context : Addr) (pause : Pause) : Run Unit := do
  match pause, x with
  | .load toolchain number, _ =>
    Toolchain.settle toolchain number
    placeComponent p toolchain step context
  | .thread result, _ => ScriptEngine.finish p.host true step.name result
  | .turn, host id => (p.executor id).execute step context
  | .turn, _ => pure ()

end Executor

namespace Pause

/-- Brings about what a step waits for. -/
def await : Pause → Run Unit
  | load toolchain number => Toolchain.runLoad toolchain number
  | thread _ | turn => pure ()

end Pause

/-- Executes a step, and waits for what it needs. -/
def Executor.execute (p : Platform) (x : Executor) (step : Step) (context : Addr) : Run Unit := do
  match ← x.start p step context with
  | none => pure ()
  | some pause => do
    pause.await
    x.finish p step context pause

end Stepwise
