import Stepwise.Library.Mathematics
import Stepwise.Template.Operand
import Stepwise.Library.Builtins
/-!
# Filters of numbers

Reading numbers, rounding them and writing them as sizes.
-/

namespace Stepwise.Template.Filter

/-- Runs one way, and another if that fails with an error of one of these classes. -/
private def orElseOf {α : Type} (classes : List String) (first second : Run α) : Run α := do
  match ← Run.outcome first with
  | .ok v => return v
  | .error e =>
    let c ← Run.errorClass e
    if ← classes.anyM fun k => Value.isSubclass c (.cls k) then second else Run.raiseObject e

private def toInt (a : Application) : Run Value := do
  let m := a.machine
  let asInt (vs : List Value) : Run Value := m.apply (.cls "int") vs
  let direct := match a.value with
    | .str _ | .markup _ => asInt [a.value, a.argument "base" (.int 10)]
    | v => asInt [v]
  -- a text with a fraction is a number too
  let viaFloat := do asInt [← m.apply (.cls "float") [a.value]]
  orElseOf ["TypeError", "ValueError"] direct
    (orElseOf ["TypeError", "ValueError", "OverflowError"] viaFloat (return a.argument "default" (.int 0)))

private def toFloat (a : Application) : Run Value :=
  orElseOf ["TypeError", "ValueError"] (a.machine.apply (.cls "float") [a.value])
    (return a.argument "default" (.float 0.0))

private def round (a : Application) : Run Value := do
  let m := a.machine
  let precision := a.argument "precision" (.int 0)
  let method := (a.argument "method" (.str "common")).text?.getD ""
  if method == "common" then Builtins.round ⟨[a.value, precision], []⟩
  else if method == "ceil" || method == "floor" then
    let unit ← operate .pow (.int 10) precision
    let whole ← Mathematics.call m method ⟨[← operate .mul a.value unit], []⟩
    operate .div whole (← operate .pow (.int 10) precision)
  else Run.raise Classes.filterArgumentError "method must be common, ceil or floor"

/-! ## Sizes -/

private def decimalUnits : List String := ["kB", "MB", "GB", "TB", "PB", "EB", "ZB", "YB"]
private def binaryUnits : List String := ["KiB", "MiB", "GiB", "TiB", "PiB", "EiB", "ZiB", "YiB"]

/-- The unit of a size: the first whose thousandfold is more, or else the last. -/
private def unitFor (x : Float) (base : Nat) : List (String × Nat) → String × Nat
  | [] => ("", 2)
  | [u] => u
  | u :: rest => if x < Number.nearestOfNat (Nat.pow base u.2) 1 then u else unitFor x base rest

private def fileSize (a : Application) : Run Value := do
  let binary ← (a.argument "binary" (.bool false)).truthy
  let x ← match ← a.machine.apply (.cls "float") [a.value] with
    | .float x => pure x
    | v => v.toFloat
  let base : Nat := if binary then 1024 else 1000
  let baseFloat := Float.ofNat base
  if x == 1.0 then return .str "1 Byte"
  if x < baseFloat then return .str (toString (← truncateFloat x) ++ " Bytes")
  let units := if binary then binaryUnits else decimalUnits
  let (name, power) := unitFor x base (units.zipIdx.map fun (u, i) => (u, i + 2))
  let shown ← formatValue (.float (baseFloat * x / Number.nearestOfNat (Nat.pow base power) 1)) ".1f"
  return .str (shown ++ " " ++ name)

/-- The filters of numbers. -/
def ofNumbers? : String → Option (Application → Run Value)
  | "abs" => some fun a => a.machine.apply (.fn "abs") [a.value]
  | "int" => some toInt
  | "float" => some toFloat
  | "round" => some round
  | "filesizeformat" => some fileSize
  | "count" | "length" => some fun a => Builtins.size a.machine a.value
  | _ => none

end Stepwise.Template.Filter
