import Stepwise.Run.Call
/-!
# Tying the knot

The parts of the evaluator are put together, each over the record of all of them one level
below. The level bounds how deeply they can be nested in each other.
-/

namespace Stepwise

/-- The machine in which parts may be nested so deeply. -/
def Machine.at (host : Host) : Nat → Machine
  | 0 =>
    { call := fun _ _ => Run.exhausted
      advance := fun _ => Run.exhausted
      compare := fun _ _ _ => Run.exhausted
      resume := fun _ _ => Run.exhausted
      expr := fun _ _ => Run.exhausted
      nodes := fun _ _ => Run.exhausted }
  | n + 1 =>
    { call := fun f a => callValue (Machine.at host n) host f a
      advance := fun r => advanceReader (Machine.at host n) (operate .add) r
      compare := fun op a b => compareValues (Machine.at host n) op a b
      resume := fun g arrival => Script.resume (Machine.at host n) g arrival
      expr := fun place e => Template.evaluate (Machine.at host n) place e
      nodes := fun place ns => Template.renderNodes (Machine.at host n) place ns }

end Stepwise
