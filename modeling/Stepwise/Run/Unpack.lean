import Stepwise.Run.Source
/-!
# Taking values apart

A source that stands against a number of targets must have just so many values.
-/

namespace Stepwise

/-- A reader of a value that is to be taken apart. -/
def Value.partsReader (v : Value) : Run Value := do
  match ← Run.outcome v.reader with
  | .ok r => return r
  | .error e =>
    if ← Value.isSubclass (← Run.errorClass e) (.cls "TypeError") then
      Run.typeError ("cannot unpack non-iterable " ++ (← v.kindName) ++ " object")
    else Run.raiseObject e

namespace Machine

/-- At most so many values of a reader. -/
def readSome (m : Machine) (r : Value) (limit : Nat) : Run (List Value) :=
  Run.iterate (fun acc : List Value => do
    if acc.length ≥ limit then return .inr acc.reverse
    match ← m.advance r with
    | some v => return .inl (v :: acc)
    | none => return .inr acc.reverse) Run.patience []

/-- The values of a source of so many; no more than one too many is read. -/
def unpack (m : Machine) (n : Nat) (v : Value) : Run (List Value) := do
  let xs ← m.readSome (← v.partsReader) (n + 1)
  if xs.length < n then
    Run.valueError ("not enough values to unpack (expected " ++ toString n ++ ", got " ++
      toString xs.length ++ ")")
  if xs.length > n then
    Run.valueError ("too many values to unpack (expected " ++ toString n ++ ")")
  return xs

end Machine

end Stepwise
