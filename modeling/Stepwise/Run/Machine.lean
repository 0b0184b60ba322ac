import Stepwise.Run.World
/-!
# The machine

Calling a function, reading a source, comparing two values and evaluating a piece of a template
all lean on each other. Each of them is defined without recursion, over a record of the others;
`Stepwise.Run.Knot` ties the record to itself with a bound on the nesting.
-/

namespace Stepwise

/-- The six comparisons that classes can define. -/
inductive Comparison where
  | eq | ne | lt | le | gt | ge
  deriving DecidableEq, Inhabited

namespace Comparison

/-- The comparison with its operands exchanged. -/
def swap : Comparison → Comparison
  | eq => eq | ne => ne | lt => gt | le => ge | gt => lt | ge => le

def sign : Comparison → String
  | eq => "==" | ne => "!=" | lt => "<" | le => "<=" | gt => ">" | ge => ">="

/-- The method by which a class defines the comparison. -/
def method : Comparison → String
  | eq => "__eq__" | ne => "__ne__" | lt => "__lt__" | le => "__le__" | gt => "__gt__"
  | ge => "__ge__"

/-- What the comparison says of two values in a known order. -/
def holds : Comparison → Ordering → Bool
  | eq, o => o == .eq
  | ne, o => o != .eq
  | lt, o => o == .lt
  | le, o => o != .gt
  | gt, o => o == .gt
  | ge, o => o != .lt

end Comparison

/-- What a generator does when it is asked to go on. -/
inductive Turn where
  | yielded (v : Value)
  | finished (v : Value)
  deriving Inhabited

/-- What the parts of the evaluator need of each other. -/
structure Machine where
  call : Value → Args → Run Value
  /-- Reads the next value of a source, if there is one. -/
  advance : Value → Run (Option Value)
  compare : Comparison → Value → Value → Run Value
  /-- Hands a value to a generator, or raises an error in it, and lets it go on. -/
  resume : Addr → Except Addr Value → Run Turn
  /-- Evaluates an expression of a template. -/
  expr : Place → Template.Expr → Run Value
  /-- Renders nodes of a template. -/
  nodes : Place → List Template.Node → Run (List Value)

/-- What the host application supplies: its functions, by name. -/
structure Host where
  call : String → Args → Run Value
  /-- Is a call of the function only a promise of its result? -/
  isDeferred : String → Bool

namespace Machine

/-- Calls a function with values by position. -/
def apply (m : Machine) (f : Value) (args : List Value) : Run Value := m.call f ⟨args, []⟩

end Machine

end Stepwise
