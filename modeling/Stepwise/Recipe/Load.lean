import Stepwise.Recipe.Basic
import Stepwise.Document.Read
import Stepwise.Document.Write
/-!
# Loading recipes

A recipe is loaded from the text of a document or from a value that has been read already.
Everything that a recipe names is turned into text, and the parts are checked in a fixed order:
the name, the two lists, the inputs and then the steps.
-/

namespace Stepwise

/-- The text of a field; a missing one is empty. -/
def fieldText (v : Value) : Run String :=
  match v with
  | .null => return ""
  | _ => v.plain

/-- What a dictionary holds under a name, nothing if it holds nothing. -/
def Dict.field (d : Dict) (name : String) : Value := (d.getText? name).getD .null

/-- Reads a step off a dictionary. -/
def Step.ofValue (v : Value) : Run Step := do
  match ← v.dict? with
  | none => RecipeFault.throw (.stepNotMapping (← v.kindName))
  | some (_, _, d) =>
    return ⟨← fieldText (d.field "name"), ← fieldText (d.field "engine"), ← fieldText (d.field "code")⟩

/-- Reads a declaration; `recipe` is the name that messages give. -/
def Input.ofValue (recipe : String) (v : Value) : Run Input := do
  match v.text? with
  | some s =>
    if Text.isBlankText s then RecipeFault.throw (.blankInput recipe) else return .required s
  | none =>
    match ← v.dict? with
    | some (_, _, d) =>
      if d.isEmpty then RecipeFault.throw (.emptyInput recipe)
      else
        let pairs ← d.pairs.mapM fun (k, x) => do return (← k.plain, x)
        return .defaults (OrderedMap.ofList pairs)
    | none => RecipeFault.throw (.badInput recipe (← v.kindName))

namespace Recipe

/-- The names that more than one step has, once for every step that repeats one. -/
def repeatedNames (steps : List Step) : List String :=
  (steps.foldl (fun (seen, out) s =>
    if seen.contains s.name then (seen, out ++ [s.name]) else (s.name :: seen, out)) ([], [])).2

/-- The members of a field that has to be a list; a missing or empty field has none. -/
def listField (v : Value) (fault : RecipeFault) : Run (List Value) := do
  if ← v.truthy then
    match ← v.list? with
    | some (_, xs) => return xs.toList
    | none => fault.throw
  else return []

/-- A recipe with a name and nothing else. -/
def make (name : Value) (description : String) : Run Recipe := do
  match name.text? with
  | some n =>
    if Text.isBlankText n then RecipeFault.throw .noName else return ⟨n, description, [], [], .null⟩
  | none => RecipeFault.throw .noName

/-- Reads a recipe off a dictionary. -/
def ofValue (v source : Value) : Run Recipe := do
  match ← v.dict? with
  | none => RecipeFault.throw (.notMapping (← v.kindName))
  | some (_, _, d) =>
    match (d.field "jinx_name").text? with
    | none => RecipeFault.throw .noName
    | some name =>
      if Text.isBlankText name then RecipeFault.throw .noName
      else
        let rawInputs ← listField (d.field "inputs") (.inputsNotList name)
        let rawSteps ← listField (d.field "steps") (.stepsNotList name)
        let inputs ← rawInputs.mapM (Input.ofValue name)
        let steps ← rawSteps.mapM Step.ofValue
        (repeatedNames steps).forM fun s =>
          Run.log .warning ("Jinx '" ++ name ++ "' has more than one step named '" ++ s ++ "'")
        let description ← fieldText (d.field "description")
        let source ← if ← source.truthy then pure source else pure (d.field "_source_path")
        return ⟨name, description, inputs, steps, source⟩

/-- Reads a recipe off the text of a document. -/
def ofText (text : String) (source : Value) : Run Recipe := do
  match ← Document.read text with
  | .ok v => ofValue v source
  | .error .malformed => RecipeFault.throw .notDocument
  | .error (.noSuchChar n) =>
    if n < Nat.pow 2 31 then Run.valueError "chr() arg not in range(0x110000)"
    else Run.overflowError "Python int too large to convert to C int"

/-- Loads a recipe from a text or a value. -/
def load (raw source : Value) : Run Recipe :=
  match raw.text? with
  | some s => ofText s source
  | none => ofValue raw source

/-- Loads a recipe again; another source may be given. -/
def reload (r : Recipe) (source : Value) : Run Recipe := do
  let v ← r.toValue
  ofValue v (if ← source.truthy then source else r.source)

/-- The text of a recipe's document. -/
def toText (r : Recipe) : Run String := do Document.write (← r.toValue)

end Recipe

end Stepwise
