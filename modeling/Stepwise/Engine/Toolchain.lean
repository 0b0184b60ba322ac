import Stepwise.Run.Knot
import Stepwise.Settings.Update
import Stepwise.Template.Check
/-!
# Toolchains

A toolchain turns the text of a render step into a component. It loads its environment for templates
when it is first needed, and only once, as `Stepwise.Engine.Loading` says; a step that cannot be
compiled or run is reported and gives no component.
-/

namespace Stepwise.Toolchain

/-! ## Loading -/

/-- The toolchain with an address. -/
def fetch (a : Addr) : Run Toolchain := do
  match ← Run.load a with
  | .toolchain t => return t
  | _ => return default

/-- Changes what a toolchain has loaded. -/
def change (a : Addr) (f : Loading Environment → Loading Environment) : Run Unit :=
  Run.update a fun o => match o with
    | .toolchain t => .toolchain { t with loading := f t.loading }
    | o => o

/-- A toolchain that has loaded nothing. -/
def create (settings : EngineSettings) (loader : Loader := Loader.ordinary) : Run Addr :=
  Run.alloc (.toolchain { settings := settings, loader := loader })

/-- The toolchain that all share who have none of their own. -/
def shared : Run Addr := do
  match (← Run.world).defaultToolchain with
  | some a => return a
  | none =>
    let a ← create (← (← configuration).engineSettings)
    Run.adjust fun w => { w with defaultToolchain := some a }
    return a

/-- What the loader hands over at the next attempt. -/
def nextEnd (t : Toolchain) : LoadEnd Environment :=
  match t.loader t.loading.begun with
  | .environment => .ok (some (.templates ⟨t.settings.autoescape, t.settings.strictUndefined⟩))
  | .nothing => .ok none
  | .other kind => .ok (some (.other kind))
  | .failed reason => .error (.failed reason)

/-- Joins a load, unless the environment is there. -/
def enter (a : Addr) : Run (Option Nat) := do
  let l := (← fetch a).loading
  if l.environment.isSome then return none
  let (number, l) := l.join
  change a fun _ => l
  return some number

/-- A load from its beginning to its end. One that does not wait to begin is left alone, but those who
wait for it are told. -/
def runLoad (a : Addr) (number : Nat) : Run Unit := do
  let t ← fetch a
  if t.loading.isCreated number then
    let e := t.nextEnd
    change a (·.begin number)
    Run.log .info "Initializing render toolchain"
    match e with
    | .ok _ => pure ()
    | .error fault => Run.log .error fault.message
    change a (·.finish number e)
    match e with
    | .ok _ => Run.log .info "Render toolchain ready"
    | .error _ => pure ()
  change a (·.tell number)

/-- What a caller learns who waited for a load. -/
def settle (a : Addr) (number : Nat) : Run Unit := do
  match (← fetch a).loading.known? number with
  | some (.error fault) => Run.raise Classes.toolchainError fault.message
  | _ => pure ()

/-- Loads the environment, unless it is there. -/
def ensureInitialized (a : Addr) : Run Unit := do
  match ← enter a with
  | none => pure ()
  | some number =>
    runLoad a number
    settle a number

/-! ## Compiling -/

/-- The environment, which must have been loaded. -/
def environment (a : Addr) : Run Environment := do
  match (← fetch a).loading.environment with
  | some e => return e
  | none => Run.raise Classes.toolchainError "Toolchain has not been initialized"

/-- Compiles a template. The message of a fault is the name of its class. -/
def compile (a : Addr) (source : String) : Run Template := do
  let refuse (cls : String) : Run Template := Run.raise cls (Classes.shortName cls)
  match ← environment a with
  | .other kind => Run.attributeError ("'" ++ kind ++ "' object has no attribute 'from_string'")
  | .templates settings =>
    match Template.parse source with
    | .ok body => return ⟨settings, body, a⟩
    | .error .malformed => refuse Classes.templateSyntaxError
    | .error .meaningless => refuse Classes.templateAssertionError

/-- The component of a step, with the environment as it is. What goes wrong is reported, and there is no
component then. -/
def produce (m : Machine) (a : Addr) (source : String) (context : Value) (step : String) :
    Run (Option Value) :=
  Run.recoverOrdinary
    (do
      let t ← compile a source
      return some (← Template.componentOf m t context (← fetch a).settings.componentName))
    fun e => do
      Run.log .error ("Render compile error in step '" ++ step ++ "': " ++ (← errorMessage e))
      return none

/-- The component of a step, if it has one. -/
def invoke (m : Machine) (a : Addr) (source : String) (context : Value) (step : String) :
    Run (Option Value) := do
  ensureInitialized a
  produce m a source context step

end Stepwise.Toolchain
