import Stepwise.Template.Operand
/-!
# Tests

What a template can ask about a value: what kind it is, whether it is there, and how it compares with
another one.
-/

namespace Stepwise.Template.Question

/-! ## Kinds -/

private def isOneOf (classes : List String) (v : Value) : Run Bool := classes.anyM fun c => v.isOf c

/-- A whole number that is no truth value. -/
private def isInteger (v : Value) : Run Bool := do
  return (← v.isOf "int") && !(← v.isOf "bool")

private def isText (v : Value) : Run Bool := do return (← v.payload).text?.isSome

/-- Has a value a size and items? -/
private def isSequence (v : Value) : Run Bool := do
  let sized ← match ← Run.outcome (Loop.sizeOf? v) with
    | .ok n => pure n.isSome
    | .error _ => pure false
  if !sized then return false
  match ← v.payload with
  | .ref a =>
    match ← Run.load a with
    | .set .. | .view .. => return false
    | _ => return true
  | _ => return true

private def canIterate (v : Value) : Run Bool := do
  match ← Run.object? v with
  | some (.undefined u) => if u.strict then failUndefined u else return true
  | some (.selfRef _) => return true
  | _ => v.isSource

/-! ## Two values -/

/-- Leaves a number nothing when it is divided? -/
private def leaves (m : Machine) (rest : Int) (v divisor : Value) : Run Value := do
  return .bool (← m.matches (← operate .mod v divisor) (.int rest))

private def comparison? : String → Option Comparison
  | "==" | "eq" | "equalto" => some .eq
  | "!=" | "ne" => some .ne
  | ">" | "gt" | "greaterthan" => some .gt
  | "ge" | ">=" => some .ge
  | "<" | "lt" | "lessthan" => some .lt
  | "<=" | "le" => some .le
  | _ => none

/-- Answers a test. -/
def answer (id : String) (a : Application) : Run Value := do
  let m := a.machine
  let v := a.value
  let yes (b : Bool) : Run Value := return .bool b
  let isName (known : String → Bool) : Run Value := do
    -- only what can be a key is looked up
    let _ ← v.key
    match v.text? with
    | some s => yes (known s)
    | none => yes false
  match comparison? id with
  | some op => m.compare op v (a.argument "b" .null)
  | none =>
    match id with
    | "odd" => leaves m 1 v (.int 2)
    | "even" => leaves m 0 v (.int 2)
    | "divisibleby" => leaves m 0 v (a.argument "num" .null)
    | "defined" => yes !(← isUndefined v)
    | "undefined" => yes (← isUndefined v)
    | "filter" => isName isFilter
    | "test" => isName isTest
    | "none" => yes v.isNull
    | "boolean" => yes (match v with | .bool _ => true | _ => false)
    | "true" => yes (match v with | .bool b => b | _ => false)
    | "false" => yes (match v with | .bool b => !b | _ => false)
    | "integer" => yes (← isInteger v)
    | "float" => yes (← v.isOf "float")
    | "number" => yes (← isOneOf ["int", "float", "complex"] v)
    | "lower" => yes (Text.allLower (← v.plain).toList)
    | "upper" => yes (Text.allUpper (← v.plain).toList)
    | "string" => yes (← isText v)
    | "mapping" => yes (← v.dict?).isSome
    | "sequence" => yes (← isSequence v)
    | "iterable" => yes (← canIterate v)
    | "callable" => yes (← v.isCallable)
    | "sameas" => yes (Value.same v (a.argument "other" .null))
    | "escaped" => yes (← hasHtml v)
    | _ => yes (← isMember m v (a.argument "seq" .null))

end Stepwise.Template.Question
