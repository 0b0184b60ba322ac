import Stepwise.Template.Filter.Sequences
/-!
# Filters that apply others

Changing every value of a source by a filter, keeping those that pass a test, and the single
choices: an attribute of a value, and a value in place of a missing one.
-/

namespace Stepwise.Template.Filter

/-! ## Every value of a source -/

/-- What a `map` does to a value: it follows a path, or applies a filter. -/
private def change (a : Application) : Run Value := do
  match a.rest, a.named.lookup "attribute" with
  | [], some path =>
    let others := a.named.filter fun (k, _) => k != "attribute" && k != "default"
    match others with
    | (k, _) :: _ => Run.raise Classes.filterArgumentError ("Unexpected keyword argument " ++ Text.quoted k)
    | [] => pure ()
    let default := match a.named.lookup "default" with
      | none | some .null => none
      | some v => some v
    pathFunction a.place path default false
  | id :: rest, _ => Run.new (.fitting (.filter id rest a.named) a.place)
  | [], none => Run.raise Classes.filterArgumentError "map requires a filter argument"

/-- What a value has to pass: a test, or else being true. -/
private def condition (a : Application) (onAttribute : Bool) : Run Value := do
  let (path, rest) ← if onAttribute then
      match a.rest with
      | [] => Run.raise Classes.filterArgumentError "Missing parameter for attribute name"
      | p :: rest => do pure (some (← pathOf p), rest)
    else pure (none, a.rest)
  Run.new (.fitting (.test path rest.head? (rest.drop 1) a.named) a.place)

/-- The values of a source, unless it counts as false, read through a cursor. -/
private def through (a : Application) (prepare : Run Value) (cursor : Value → Value → Cursor) : Run Value := do
  if ← a.value.truthy then
    let f ← prepare
    Run.list [← Run.new (.cursor "generator" (cursor f (← a.value.reader)))]
  else Run.list []

private def chosen (onAttribute keep : Bool) (a : Application) : Run Value :=
  through a (condition a onAttribute) fun f r => .filter f r keep

/-- What these filters hand out when they are first read, in a list of sources. -/
private def laterChoice? : String → Option (Application → Run Value)
  | "map" => some fun a => through a (change a) fun f r => .map f [r]
  | "select" => some (chosen false true)
  | "reject" => some (chosen false false)
  | "selectattr" => some (chosen true true)
  | "rejectattr" => some (chosen true false)
  | _ => none

/-- What a filter hands out when it is first read, in a list of sources. -/
def sources? (id : String) : Option (Application → Run Value) :=
  (laterChoice? id).orElse fun _ => (laterSequence? id).map fun f a => do Run.list [← f a]

/-! ## Single choices -/

private def attr (a : Application) : Run Value := do
  match a.argument "name" .null with
  | .str id | .markup id => attributeOnly a.machine a.place a.value id
  | v => Run.typeError ("attribute name must be string, not '" ++ (← v.kindName) ++ "'")

private def default (a : Application) : Run Value := do
  let instead := a.argument "default_value" (.str "")
  if ← isUndefined a.value then return instead
  let orFalse ← (a.argument "boolean" (.bool false)).truthy
  if orFalse && !(← a.value.truthy) then return instead
  return a.value

/-- The filters that choose. -/
def ofChoice? : String → Option (Application → Run Value)
  | "attr" => some attr
  | "d" | "default" => some default
  | id => (laterChoice? id).map fun _ a => madeLater a.place id a.all

end Stepwise.Template.Filter
