import Stepwise.Recipe.Load
/-!
# Batches of recipes

Many recipes are loaded at once into a map by name. A recipe that does not load is reported and
left out; of two recipes with one name the later one stays.
-/

namespace Stepwise.Batch

/-- What to load, and the source it came from. -/
def unpack (item : Value) : Run (Value × Value) := do
  match ← item.tuple? with
  | some xs =>
    match xs with
    | [] => Run.valueError "not enough values to unpack (expected 2, got 1)"
    | [c] => return (c, .null)
    | c :: p :: _ => return (c, p)
  | none =>
    match ← item.dict? with
    | some (_, _, d) =>
      match d.getText? "content" with
      | some c => return (c, d.field "path")
      | none => return (item, .null)
    | none => return (item, .null)

/-- How messages name a source. -/
def sourceText (path : Value) : Run String := do
  if ← path.truthy then path.plain else return "<unknown>"

/-- Loads one item into the map. -/
def add (recipes : OrderedMap String Recipe) (item : Value) : Run (OrderedMap String Recipe) := do
  let (content, path) ← unpack item
  match ← Run.outcome (Recipe.load content path) with
  | .error e =>
    Run.log .error ("Failed to load jinx from " ++ (← sourceText path) ++ ": " ++ (← errorMessage e))
    return recipes
  | .ok r =>
    if recipes.contains r.name then
      Run.log .debug ("Jinx '" ++ r.name ++ "' from " ++ (← sourceText path) ++
        " replaces an earlier definition")
    return recipes.insert r.name r

/-- Loads a list of items. -/
def load (items : List Value) : Run (OrderedMap String Recipe) := do
  let recipes ← items.foldlM add OrderedMap.empty
  Run.log .info ("Loaded " ++ toString recipes.size ++ " jinx definitions")
  return recipes

end Stepwise.Batch
