import Stepwise.Library.Arguments
import Stepwise.Run.Source
/-!
# Loops of templates

What a template can ask of the loop that it is in. A loop reads one value ahead when it is asked
for what comes next, and all of them when it is asked how many there are.
-/

namespace Stepwise

/-- A value that stands for something missing, with the reason. -/
def undefinedBecause (strict : Bool) (reason : String) : Run Value :=
  Run.new (.undefined ⟨some reason, none, .null, .ofStrict strict, false⟩)

namespace Loop

/-- The number of values of something that knows it. -/
def sizeOf? (v : Value) : Run (Option Nat) := do
  match ← v.payload with
  | .str s | .markup s => return some s.length
  | .bytes b => return some b.length
  | .ref a =>
    match ← Run.load a with
    | .list xs => return some xs.size
    | .tuple _ xs => return some xs.length
    | .dict _ d => return some d.size
    | .set _ d => return some d.size
    | .deque xs _ => return some xs.length
    | .range x y s => return some (rangeSize x y s)
    | .view _ d =>
      match ← Run.load d with
      | .dict _ dd => return some dd.size
      | _ => return none
    | .undefined u => if u.strict then failUndefined u else return some 0
    | _ => return none
  | _ => return none

/-- A new loop over a source. -/
def start (iterable : Value) (depth : Nat) (strict : Bool)
    (recursion : Option LoopShape) : Run Addr := do
  let r ← iterable.reader
  Run.alloc (.loop { iterable, reader := r, depth, strict, recursion })

/-- Reads one value ahead. -/
private def peek (m : Machine) (a : Addr) (l : Loop) : Run (Option Value) := do
  match l.upcoming with
  | some v => return v
  | none =>
    let v ← m.advance l.reader
    Run.save a (.loop { l with upcoming := some v })
    return v

/-- Goes on to the next value, if there is one. -/
def next (m : Machine) (a : Addr) : Run (Option Value) := do
  match ← Run.load a with
  | .loop l =>
    let v ← match l.upcoming with
      | some (some v) => pure (some v)
      | _ => m.advance l.reader
    match v with
    | none =>
      Run.save a (.loop { l with upcoming := some none })
      return none
    | some v =>
      Run.save a (.loop
        { l with upcoming := none, index := l.index + 1, previous := l.current, current := some v })
      return some v
  | _ => return none

/-- How many values the loop has in all. -/
private def size (m : Machine) (a : Addr) (l : Loop) : Run Nat := do
  match l.length with
  | some n => return n
  | none =>
    match ← sizeOf? l.iterable with
    | some n =>
      Run.save a (.loop { l with length := some n })
      return n
    | none =>
      let rest ← m.drain l.reader
      let r ← (← Run.list rest).reader
      let ahead := match l.upcoming with
        | some (some _) => 1
        | _ => 0
      let n := rest.length + (l.index + 1).toNat + ahead
      Run.save a (.loop { l with reader := r, length := some n })
      return n

/-- The part of a loop with a name. -/
def field? (m : Machine) (a : Addr) (l : Loop) (name : String) : Run (Option Value) := do
  let number (n : Int) : Run (Option Value) := return some (.int n)
  match name with
  | "index0" => number l.index
  | "index" => number (l.index + 1)
  | "depth0" => number l.depth
  | "depth" => number (l.depth + 1)
  | "first" => return some (.bool (l.index == 0))
  | "last" => return some (.bool (← peek m a l).isNone)
  | "length" => number (← size m a l)
  | "revindex" => number ((← size m a l) - l.index)
  | "revindex0" => number ((← size m a l) - l.index - 1)
  | "previtem" =>
    match l.previous with
    | some v => return some v
    | none => return some (← undefinedBecause l.strict "there is no previous item")
  | "nextitem" =>
    match ← peek m a l with
    | some v => return some v
    | none => return some (← undefinedBecause l.strict "there is no next item")
  | _ => return none

def methods : List String := ["changed", "cycle"]

/-- Calls a method of a loop. -/
def call (m : Machine) (a : Addr) (l : Loop) (name : String) (args : Args) : Run Value := do
  match args.named with
  | (k, _) :: _ =>
    Run.typeError ("LoopContext." ++ name ++ "() got an unexpected keyword argument '" ++ k ++ "'")
  | [] => pure ()
  match name with
  | "cycle" =>
    if args.pos.isEmpty then Run.typeError "no items for cycling given"
    let n := Int.ofNat args.pos.length
    return args.pos.getD (l.index.emod n).toNat .null
  | _ =>
    let now ← Run.tuple args.pos
    let same ← match l.changed with
      | some before => m.matches before now
      | none => pure false
    if same then return .bool false
    Run.update a fun o => match o with
      | .loop l => .loop { l with changed := some now }
      | o => o
    return .bool true

end Loop

end Stepwise
