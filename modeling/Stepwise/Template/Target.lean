import Stepwise.Run.Index
import Stepwise.Run.Unpack
import Stepwise.Template.Scope
/-!
# Targets

A target is a name, an attribute of a namespace, or several targets that take a value apart.
-/

namespace Stepwise.Template

mutual

/-- The single targets of a target, with the values that they get. -/
def Expr.parts (m : Machine) : Expr → Value → Run (List (Expr × Value))
  | .tuple es, v => do partsOf m es (← m.unpack es.length v)
  | e, v => return [(e, v)]

private def partsOf (m : Machine) : List Expr → List Value → Run (List (Expr × Value))
  | e :: es, v :: vs => do return (← e.parts m v) ++ (← partsOf m es vs)
  | _, _ => return []

end

/-- The names of a target with the values that they get; of two values for one name the last counts. -/
def Expr.bindings (m : Machine) (target : Expr) (v : Value) : Run (List (String × Value)) := do
  let found ← target.parts m v
  return (found.filterMap fun (e, x) => match e with
    | .name id => some (id, x)
    | _ => none).reverse

mutual

/-- A value made from a target and the values of its names. -/
def Expr.rebuilt (values : List (String × Value)) : Expr → Run Value
  | .name id => return (values.lookup id).getD .null
  | .tuple es => do Run.tuple (← rebuiltAll values es)
  | _ => return .null

private def rebuiltAll (values : List (String × Value)) : List Expr → Run (List Value)
  | [] => return []
  | e :: es => do return (← e.rebuilt values) :: (← rebuiltAll values es)

end

/-- Values that are handed to a part. -/
def handed (values : List (String × Value)) : List (String × Option Value) := values.map fun (k, v) => (k, some v)

/-- Is a name known around a place? -/
def knownFrom (place : Place) : Run (String → Bool) := do
  let known ← knownAt place
  return known.contains

/-- Gives a single target its value: a name, or a field of a namespace or of whatever has items. -/
def assignPart (m : Machine) (place : Place) : Expr × Value → Run Unit
  | (.name id, v) => assignName place id v
  | (.fieldRef id field, v) => do
    match ← lookup? place id with
    | some (some owner) =>
      match owner, ← Run.object? owner with
      | .ref a, some (.namespaceObj members) =>
        Run.save a (.namespaceObj (if (members.lookup field).isSome
          then members.map fun (k, x) => if k == field then (k, v) else (k, x)
          else members ++ [(field, v)]))
      | _, _ => setItem m owner (.str field) v
    | _ => Run.typeError "'MissingType' object does not support item assignment"
  | _ => return ()

/-- Gives a target its value. -/
def assignTarget (m : Machine) (place : Place) (target : Expr) (v : Value) : Run Unit := do
  (← target.parts m v).forM (assignPart m place)

/-- Only namespaces have attributes that can be set. -/
def checkOwners (place : Place) (target : Expr) : Run Unit :=
  target.owners.eraseDups.forM fun id => do
    let refuse : Run Unit :=
      Run.raise Classes.templateRuntimeError "cannot assign attribute on non-namespace object"
    match ← lookup? place id with
    | some (some v) =>
      match ← Run.object? v with
      | some (.namespaceObj _) => return ()
      | _ => refuse
    | _ => refuse

end Stepwise.Template
