import Stepwise.Value.Show
import Stepwise.Recipe.Basic
/-!
# Executors and their registry

A step names its engine, and the registry says which executor runs the steps of an engine. An
engine that is not registered falls to the fallback.
-/

namespace Stepwise

/-- What runs the steps of an engine. -/
inductive Executor where
  /-- Reports the step and does nothing. -/
  | skip
  /-- Turns the code into a component, with this toolchain. -/
  | render (toolchain : Value)
  /-- Runs the code as a script, perhaps in a thread of its own. -/
  | script (inThread : Bool)
  /-- An executor of the host application. -/
  | host (id : String)
  deriving Inhabited

/-- An executor as it is displayed. -/
def Executor.display : Executor → Run String
  | skip => return "NoOpStepExecutor()"
  | render t => do return "RenderStepExecutor(toolchain=" ++ (← t.display) ++ ")"
  | script _ => return "ScriptStepExecutor()"
  | host id => return id ++ "()"

structure Registry where
  executors : OrderedMap String Executor := OrderedMap.empty
  fallback : Executor := .skip
  deriving Inhabited

namespace Registry

/-- An engine without a name cannot be registered. -/
inductive Fault where
  | noName
  deriving DecidableEq

def Fault.message : Fault → String
  | noName => "Engine name cannot be empty"

/-- Registers an executor in the place of any before it. -/
def register (r : Registry) (engine : String) (e : Executor) : Except Fault Registry :=
  if engine.isEmpty then .error .noName
  else .ok { r with executors := r.executors.insert engine e }

/-- Removes the executor of an engine and hands it over. -/
def unregister (r : Registry) (engine : String) : Option Executor × Registry :=
  (r.executors.find? engine, { r with executors := r.executors.erase engine })

/-- The executor for an engine. -/
def get (r : Registry) (engine : String) : Executor := (r.executors.find? engine).getD r.fallback

def isRegistered (r : Registry) (engine : String) : Bool := r.executors.contains engine

/-- The registered engines in order of their first registration. -/
def engines (r : Registry) : List String := r.executors.keys

end Registry

end Stepwise
