import Stepwise.Value.Compare
/-!
# Recipes

A recipe is a named list of steps and the inputs that they read. An input is either a bare name,
which the caller has to supply, or a group of names with default values. Loading makes sure that
names are not blank; see `Stepwise.Recipe.Load`.
-/

namespace Stepwise

/-- One step: the engine interprets the code. -/
structure Step where
  name : String
  engine : String
  code : String
  deriving DecidableEq, Inhabited

/-- A declaration of inputs. -/
inductive Input where
  | required (name : String)
  | defaults (values : OrderedMap String Value)
  deriving Inhabited

structure Recipe where
  name : String
  description : String
  inputs : List Input
  steps : List Step
  /-- Where the recipe was read from; it is no part of the recipe's content. -/
  source : Value
  deriving Inhabited

/-- Why a value is not a recipe. -/
inductive RecipeFault where
  | notMapping (kind : String)
  | stepNotMapping (kind : String)
  | noName
  | inputsNotList (name : String)
  | stepsNotList (name : String)
  | blankInput (name : String)
  | emptyInput (name : String)
  | badInput (name kind : String)
  | notDocument
  deriving DecidableEq

def RecipeFault.message : RecipeFault → String
  | notMapping k => "Jinx definition must be a mapping, got " ++ k
  | stepNotMapping k => "Step must be a mapping, got " ++ k
  | noName => "Missing 'jinx_name' in jinx definition"
  | inputsNotList n => "Jinx '" ++ n ++ "': 'inputs' must be a list"
  | stepsNotList n => "Jinx '" ++ n ++ "': 'steps' must be a list"
  | blankInput n => "Jinx '" ++ n ++ "': input name cannot be empty"
  | emptyInput n => "Jinx '" ++ n ++ "': input mapping must declare a name"
  | badInput n k =>
    "Jinx '" ++ n ++ "': input must be a name or a name/default mapping, got " ++ k
  | notDocument => "Invalid YAML"

def RecipeFault.throw {α : Type} (f : RecipeFault) : Run α :=
  Run.raise Classes.validationError f.message

namespace Step

/-- The step as a dictionary. -/
def toValue (s : Step) : Run Value :=
  Run.dict (Dict.ofTexts [("name", .str s.name), ("engine", .str s.engine), ("code", .str s.code)])

end Step

namespace Input

/-- The names that a declaration declares, in order. -/
def names : Input → List String
  | required n => [n]
  | defaults d => d.keys

/-- The names and values that a declaration gives by default. -/
def pairs : Input → List (String × Value)
  | required _ => []
  | defaults d => d.entries

def toValue : Input → Run Value
  | required n => return .str n
  | defaults d => Run.dict (Dict.ofTexts d.entries)

end Input

namespace Recipe

/-- The values that inputs have unless the caller supplies others; later declarations win. -/
def defaults (r : Recipe) : OrderedMap String Value :=
  OrderedMap.empty.insertAll (r.inputs.flatMap Input.pairs)

/-- The names that the caller has to supply, each once, in order of declaration. -/
def required (r : Recipe) : List String :=
  r.inputs.foldl (fun acc i => match i with
    | .required n => if acc.contains n then acc else acc ++ [n]
    | .defaults _ => acc) []

/-- The first step with a name. -/
def step? (r : Recipe) (name : String) : Option Step := r.steps.find? (·.name == name)

def inputsValue (r : Recipe) : Run Value := do Run.list (← r.inputs.mapM Input.toValue)

/-- The recipe as a dictionary, without its source. -/
def toValue (r : Recipe) : Run Value := do
  let inputs ← r.inputsValue
  let steps ← Run.list (← r.steps.mapM Step.toValue)
  Run.dict (Dict.ofTexts [("jinx_name", .str r.name), ("description", .str r.description),
    ("inputs", inputs), ("steps", steps)])

def display (r : Recipe) : String :=
  "JinxDefinition(jinx_name='" ++ r.name ++ "', inputs=" ++ toString r.inputs.length ++
    ", steps=" ++ toString r.steps.length ++ ")"

def sameSteps (a b : Recipe) : Bool := a.steps == b.steps

/-- Are the declarations of two recipes equal as values? -/
def sameInputs (m : Machine) (a b : Recipe) : Run Bool := do
  m.test .eq (← a.inputsValue) (← b.inputsValue)

/-- Are two recipes equal but for their sources? -/
def same (m : Machine) (a b : Recipe) : Run Bool := do
  if a.name == b.name && a.description == b.description then
    if ← sameInputs m a b then return sameSteps a b else return false
  else return false

end Recipe

end Stepwise
