import Stepwise.Run.Knot
import Stepwise.Script.Compile
/-!
# Script steps

A script step is compiled, refused if it must not run, and run over the context of its run.
-/

namespace Stepwise.ScriptEngine

/-- Compiles the text of a step. What a script must not hold is reported all at once. -/
def compile (source step : String) : Run (List Script.Stmt) := do
  match Script.compile source with
  | .ok body => return body
  | .error .nullCharacter => Run.valueError "source code string cannot contain null bytes"
  | .error (.misplaced m) =>
    let place := " (" ++ Script.fileName ++ ", line " ++ toString m.line ++ ")"
    Run.raiseWith "SyntaxError" [.str m.message]
      [("where", .str place), ("filename", .str Script.fileName), ("lineno", .int m.line)]
  | .error refusal =>
    let errors := refusal.errors
    let shown := match errors with
      | [e] => "(" ++ Text.quoted e ++ ",)"
      | es => "(" ++ Text.joinWith ", " (es.map Text.quoted) ++ ")"
    Run.log .error ("Compilation errors in script step '" ++ step ++ "': " ++ shown)
    Run.raiseWith Classes.scriptCompilationError
      [.str ("Invalid script in step '" ++ step ++ "': " ++ Text.joinWith "; " errors)]
      [("errors", ← Run.list (errors.map Value.str))]

/-- Runs the text of a step over a context, as far as its own statements go. In a thread of its own a
script can wait for promised values. -/
def start (m : Machine) (inThread : Bool) (source : String) (context : Value) (step : String) :
    Run (Except Addr Value) := do
  let body ← compile source step
  let (f, _) ← Script.mainFunction body [("context", context), ("run_async", .fn "run_async")]
  let statements := m.apply (.ref f) []
  Run.outcome (if inThread then statements.aside else statements)

/-- An error as it arrives from another thread: one of time that has run out is made anew from its arguments. -/
def arriving (error : Addr) : Run Addr := do
  match ← Run.load error with
  | .error (.cls "TimeoutError") args _ => Run.alloc (systemError "TimeoutError" args)
  | _ => return error

/-- Ends a script whose statements are done. A promise that it returned is waited for. -/
def finish (host : Host) (inThread : Bool) (step : String) (result : Except Addr Value) : Run Unit := do
  match result with
  | .ok v => let _ ← Builtins.await host v
  | .error e =>
    if inThread then Run.raiseObject (← arriving e)
    else if ← Value.isSubclass (← Run.errorClass e) (.cls "StopIteration") then
      Run.raise "RuntimeError" "coroutine raised StopIteration"
    else Run.raiseObject e
  Run.log .debug ("Script step '" ++ step ++ "' finished")

/-- Runs the text of a step over a context. -/
def execute (m : Machine) (host : Host) (inThread : Bool) (source : String) (context : Value) (step : String) :
    Run Unit := do
  finish host inThread step (← start m inThread source context step)

end Stepwise.ScriptEngine
