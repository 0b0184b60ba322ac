import Stepwise.Run.Source
/-!
# Sorting

A stable sort whose only question is whether one item comes before another. It takes the longest
run at the start as sorted, and puts every further item behind those that it does not come before.
-/

namespace Stepwise.Sorting

variable {α : Type}

/-- How many items at the front are in order; `down` when every one comes before the last. -/
private def runLength (before : α → α → Run Bool) (down : Bool) : α → List α → Run Nat
  | _, [] => return 1
  | x, y :: rest => do
    if (← before y x) == down then return 1 + (← runLength before down y rest) else return 1

/-- The place in a sorted array behind all items that `x` does not come before. -/
private def placeIn (before : α → α → Run Bool) (x : α) (xs : Array α) : Nat → Nat → Nat → Run Nat
  | 0, lo, _ => return lo
  | fuel + 1, lo, hi => do
    if lo < hi then
      let mid := lo + (hi - lo) / 2
      match xs[mid]? with
      | some y =>
        if ← before x y then placeIn before x xs fuel lo mid
        else placeIn before x xs fuel (mid + 1) hi
      | none => return lo
    else return lo

/-- Sorts items, smallest first. -/
def sortWith (before : α → α → Run Bool) (items : List α) : Run (List α) := do
  match items with
  | [] => return []
  | [x] => return [x]
  | x :: y :: rest =>
    let down ← before y x
    let n := 1 + (← runLength before down y rest)
    let run := items.take n
    let start := (if down then run.reverse else run).toArray
    let sorted ← (items.drop n).foldlM (fun (xs : Array α) z => do
      let i ← placeIn before z xs (xs.size + 1) 0 xs.size
      return xs.insertIdxIfInBounds i z) start
    return sorted.toList

/-- The keys by which values are sorted: what a function makes of them, or themselves. -/
def keyed (m : Machine) (key : Value) (items : List Value) : Run (List (Value × Value)) :=
  items.mapM fun v => do
    match key with
    | .null => return (v, v)
    | f => return (← m.apply f [v], v)

/-- Sorts pairs of a key and an item by their keys; equal keys stay in order, even backward. -/
def sortKeyed {β : Type} (m : Machine) (backward : Bool) (items : List (Value × β)) :
    Run (List (Value × β)) := do
  let items := if backward then items.reverse else items
  let sorted ← sortWith (fun (x y : Value × β) => m.test .lt x.1 y.1) items
  return if backward then sorted.reverse else sorted

/-- Sorts values by a key. -/
def sorted (m : Machine) (key : Value) (backward : Bool) (items : List Value) : Run (List Value) := do
  return (← sortKeyed m backward (← keyed m key items)).map (·.2)

end Stepwise.Sorting
