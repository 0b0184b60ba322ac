import Stepwise.Run.World
/-!
# Environments

The templates of a toolchain belong to one environment, and have its variables besides those that they are
given. They stand in a dictionary, which can be reached from a component and written to. Until the
environment has been asked for nobody can have written to it, so it is made only then.
-/

namespace Stepwise.Template

/-- The variables that an environment has at first. -/
def everyone : List (String × Value) :=
  [("range", .fn "safe_range"), ("dict", .cls "dict"), ("lipsum", .fn "generate_lorem_ipsum"),
   ("cycler", .cls "jinja2.utils.Cycler"), ("joiner", .cls "jinja2.utils.Joiner"),
   ("namespace", .cls "jinja2.utils.Namespace"), ("element", .fn "element"), ("attrs", .fn "attrs")]

/-- The environment of a toolchain as an object, if it has been asked for. -/
def shown? (toolchain : Addr) : Run (Option Addr) := do
  match ← Run.load toolchain with
  | .toolchain t => return t.shown
  | _ => return none

/-- A toolchain that has shown its environment. -/
def showing (environment : Addr) : Obj → Obj
  | .toolchain t => .toolchain { t with shown := some environment }
  | o => o

/-- The environment of a toolchain as an object. -/
def environmentOf (toolchain : Addr) : Run Addr := do
  match ← shown? toolchain with
  | some a => return a
  | none =>
    let a ← Run.alloc (.environment (← Run.alloc (.dict .plain (Dict.ofTexts everyone))))
    Run.update toolchain (showing a)
    return a

/-- The variables of a dictionary. -/
def variablesAt (globals : Addr) : Run (List (String × Value)) := do
  match ← Run.load globals with
  | .dict _ d => return d.pairs.filterMap fun (k, v) => k.text?.map fun id => (id, v)
  | _ => return []

/-- The variables that the templates of a toolchain have now. -/
def variablesOf (toolchain : Addr) : Run (List (String × Value)) := do
  match ← shown? toolchain with
  | none => return everyone
  | some a =>
    match ← Run.load a with
    | .environment globals => variablesAt globals
    | _ => return []

end Stepwise.Template
