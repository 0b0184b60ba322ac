import Stepwise.Template.Loop
import Stepwise.Template.Macro
/-!
# Running loops

The body of a loop is rendered once for every value of its source that passes the condition, in names
that are the loop's own; the other body is rendered if there was none. A recursive loop can be run
again, on another source, from inside itself.
-/

namespace Stepwise.Template

/-- The source of a loop without the values that fail its condition. -/
private def passing (shape : LoopShape) (source : Value) : Run Value := do
  match shape.test with
  | .omitted => return source
  | test =>
    let rebuilt ← Run.new (.fitting (.rebuilt shape.target) shape.place)
    let condition ← Run.new (.fitting (.condition shape.target test) shape.place)
    let values ← Run.new (.cursor "generator" (.map rebuilt [← openedLater source]))
    Run.new (.cursor "generator" (.filter condition values true))

/-- Renders the other body, in names of its own. -/
private def renderOtherwise (m : Machine) (shape : LoopShape) : Run (List Value) := do
  if shape.otherwise.isEmpty then return []
  let symbols := Symbols.ofInner (← knownFrom shape.place) [] [] shape.otherwise []
  let inner ← enter shape.place symbols []
  let pieces ← m.nodes inner shape.otherwise
  leave inner
  return pieces

/-- Runs a loop over a source: the pieces of its text. -/
def runLoop (m : Machine) (shape : LoopShape) (source : Value) (depth : Nat) (recursive : Bool) :
    Run (List Value) := do
  let strict := (← pageAt shape.place.page).settings.strict
  let loop ← Loop.start (← passing shape source) depth strict (if recursive then some shape else none)
  let symbols := Symbols.ofTurn (← knownFrom shape.place) shape.target shape.body
  let (inner?, pieces) ← Run.iterate (fun (s : Option Place × List (List Value)) => do
    let (inner?, pieces) := s
    match ← Loop.next m loop with
    | none => return .inr (inner?, pieces.reverse.flatten)
    | some v =>
      let given := handed (← shape.target.bindings m v) ++ [("loop", some (.ref loop))]
      let inner ← match inner? with
        | none => enter shape.place symbols given
        | some inner => do
          reenter shape.place inner symbols given
          pure inner
      let turn ← m.nodes inner shape.body
      return .inl (some inner, turn :: pieces)) Run.patience (none, [])
  match inner? with
  | none => return pieces ++ (← renderOtherwise m shape)
  | some inner =>
    if !recursive || !shape.otherwise.isEmpty then leave inner
    return pieces

/-- The text of a recursive loop over a source. -/
def loopText (m : Machine) (shape : LoopShape) (source : Value) (depth : Nat) : Run Value := do
  let text ← joinPieces (← runLoop m shape source depth true)
  return textValue (← shape.place.escapesNow) text

/-- Calls a loop, which runs it again a level deeper. -/
def callLoop (m : Machine) (l : Loop) (a : Args) : Run Value := do
  let given ← a.assignedOf "LoopContext.__call__" ["iterable"] []
  match l.recursion with
  | none => Run.typeError "The loop must have the 'recursive' marker to be called."
  | some shape => loopText m shape ((given.lookup "iterable").getD .null) (l.depth + 1)

end Stepwise.Template
