import Stepwise.Recipe.Load
/-!
# Descriptors

A recipe seen from outside is a function with text parameters: bare inputs are required, and a
group of defaults declares one optional parameter, named by its first key.
-/

namespace Stepwise

/-- What a caller needs to know to invoke a recipe. -/
structure Descriptor where
  name : String
  description : String
  /-- The parameters with what is said about each. -/
  parameters : OrderedMap String String
  required : List String
  deriving Inhabited

/-- What is said about a parameter; a default is mentioned unless it is nothing or empty. -/
def parameterNote (name : String) (default : Value) : Run String := do
  let silent := match default with
    | .null => true
    | v => v.text? == some ""
  let base := "Parameter: " ++ name
  if silent then return base else return base ++ " (default: " ++ (← default.plain) ++ ")"

namespace Input

/-- The parameter that a declaration declares. -/
def parameter? : Input → Option (String × Value)
  | required n => some (n, .str "")
  | defaults d => d.entries.head?

end Input

/-- The parameters and the required names of a recipe, as far as its declarations have been gone through. -/
structure Declared where
  notes : OrderedMap String String := OrderedMap.empty
  required : List String := []
  deriving Inhabited

/-- Goes through one more declaration. A parameter that is declared again keeps its place, and what is said
about it is said anew. -/
def Declared.declare (found : Declared) (i : Input) : Run Declared := do
  match i with
  | .required n =>
    let note ← parameterNote n (.str "")
    return ⟨found.notes.insert n note, if found.required.contains n then found.required else found.required ++ [n]⟩
  | .defaults _ =>
    match i.parameter? with
    | none => return found
    | some (n, v) => return { found with notes := found.notes.insert n (← parameterNote n v) }

namespace Recipe

def describe (r : Recipe) : Run Descriptor := do
  let found ← r.inputs.foldlM Declared.declare {}
  return {
    name := r.name
    description := if r.description.isEmpty then "Jinx: " ++ r.name else r.description
    parameters := found.notes
    required := found.required }

end Recipe

namespace Descriptor

private def object (l : List (String × Value)) : Run Value := Run.dict (Dict.ofTexts l)

/-- The schema of the parameters. -/
def schema (d : Descriptor) : Run Value := do
  let props ← d.parameters.entries.mapM fun (n, note) => do
    return (n, ← object [("type", .str "string"), ("description", .str note)])
  object [("type", .str "object"), ("properties", ← object props),
    ("required", ← Run.list (d.required.map .str))]

def toValue (d : Descriptor) : Run Value := do
  object [("name", .str d.name), ("description", .str d.description), ("parameters", ← d.schema)]

/-- The descriptor in the envelope of a function tool. -/
def toFunction (d : Descriptor) : Run Value := do
  object [("type", .str "function"), ("function", ← d.toValue)]

end Descriptor

end Stepwise
