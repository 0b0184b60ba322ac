import Stepwise.Engine.Basic
import Stepwise.Engine.StepError
import Stepwise.Recipe.Descriptor
/-!
# Tools

A tool is a recipe that can be called with named arguments. It succeeds unless the recipe leaves the
text of a failed step as its output. Tools can be collected by name in a toolbox.
-/

namespace Stepwise

/-- A recipe that is called as a tool. Without an engine of its own it gets one when it is first called. -/
structure Tool where
  recipe : Recipe
  engine : Option Engine := none

/-- What a call of a tool answers. -/
inductive ToolResult where
  | lacking (arguments : List String)
  | finished (success : Bool) (output context : Value)

namespace ToolResult

/-- Did the call succeed? -/
def isSuccess : ToolResult → Bool
  | lacking _ => false
  | finished success .. => success

/-- The answer by its fields. -/
def fields : ToolResult → List (String × Value)
  | lacking names =>
    [("success", .bool false), ("error", .str ("Missing required arguments: " ++ Text.joinWith ", " names))]
  | finished success output context =>
    [("success", .bool success), ("output", output), ("context", context)] ++
      (if success then [] else [("error", output)])

/-- The answer as a dictionary. -/
def toValue (r : ToolResult) : Run Value := Run.dict (Dict.ofTexts r.fields)

end ToolResult

/-- Does an output tell of a failed step? A text of a class of a script is asked itself how it begins. -/
def tellsFailure (m : Machine) (output : Value) : Run Bool := do
  match output with
  | .ref _ =>
    match (← output.payload).text? with
    | none => return false
    | some _ =>
      match ← attribute? m output "startswith" with
      | some startsWith => (← m.apply startsWith [.str stepErrorStart]).truthy
      | none => return false
  | _ => return isStepError output

namespace Tool

def name (t : Tool) : String := t.recipe.name

/-- The required arguments that are not given, by the descriptor of the recipe. -/
def missing (m : Machine) (t : Tool) (arguments : Value) : Run (List String) := do
  let described ← t.recipe.describe
  described.required.filterM fun n => do return !(← isMember m (.str n) arguments)

/-- The engine of the tool, or a new one. -/
def summon (t : Tool) : Run Engine :=
  match t.engine with
  | some e => return e
  | none => Engine.make

/-- Runs the recipe and tells what came of it. -/
def report (p : Platform) (e : Engine) (recipe : Recipe) (arguments extra : Value) : Run ToolResult := do
  let run ← e.execute p recipe arguments extra
  let output ← Context.tellOutput p.machine run.context
  let failed ← tellsFailure p.machine output
  return .finished (!failed) output (← Context.giveSnapshot p.machine run.context)

/-- Invokes the tool with arguments that lack nothing. -/
def invoke (p : Platform) (t : Tool) (arguments extra : Value) : Run (ToolResult × Tool) := do
  Run.log .info ("Invoking jinx tool '" ++ t.name ++ "'")
  let engine ← t.summon
  return (← report p engine t.recipe arguments extra, { t with engine := some engine })

/-- Calls the tool. -/
def call (p : Platform) (t : Tool) (arguments extra : Value) : Run (ToolResult × Tool) := do
  match ← t.missing p.machine arguments with
  | [] => t.invoke p arguments extra
  | names => return (.lacking names, t)

end Tool

/-! ## Toolboxes -/

/-- Tools by name, which share an engine if there is one. -/
structure Toolbox where
  engine : Option Engine := none
  tools : OrderedMap String Tool := OrderedMap.empty

namespace Toolbox

/-- Adds the tool for a recipe, in the place of any other of its name. -/
def add (b : Toolbox) (recipe : Recipe) : Toolbox :=
  { b with tools := b.tools.insert recipe.name ⟨recipe, b.engine⟩ }

def ofRecipes (engine : Option Engine) (recipes : List Recipe) : Toolbox := recipes.foldl add { engine := engine }

def get? (b : Toolbox) (name : String) : Option Tool := b.tools.find? name

def has (b : Toolbox) (name : String) : Bool := b.tools.contains name

def size (b : Toolbox) : Nat := b.tools.size

/-- The tools as functions, in order. -/
def functions (b : Toolbox) : Run (List Value) :=
  b.tools.entries.mapM fun (_, t) => do (← t.recipe.describe).toFunction

/-- Calls a tool by name. -/
def call (p : Platform) (b : Toolbox) (name : String) (arguments extra : Value) : Run (ToolResult × Toolbox) := do
  match b.get? name with
  | none => Run.raise "KeyError" ("Unknown jinx tool: " ++ name)
  | some t =>
    let arguments ← if ← arguments.truthy then pure arguments else Run.dict Dict.empty
    let (result, t) ← t.call p arguments extra
    return (result, { b with tools := b.tools.insert name t })

end Toolbox

end Stepwise
