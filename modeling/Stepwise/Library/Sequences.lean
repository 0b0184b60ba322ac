import Stepwise.Library.Arguments
import Stepwise.Library.Sorting
import Stepwise.Run.Arithmetic
import Stepwise.Run.Index
/-!
# Methods of lists, tuples, ranges and double-ended queues
-/

namespace Stepwise.Sequences

def listMethods : List String :=
  ["append", "clear", "copy", "count", "extend", "index", "insert", "pop", "remove", "reverse", "sort"]

def tupleMethods : List String := ["count", "index"]

def dequeMethods : List String :=
  ["append", "appendleft", "clear", "copy", "count", "extend", "extendleft", "index", "insert", "pop",
   "popleft", "remove", "reverse", "rotate"]

/-! ## Searching -/

/-- How many members are equal to a value. -/
def countEqual (m : Machine) (x : Value) (items : List Value) : Run Nat :=
  items.foldlM (fun n y => do return if ← m.matches y x then n + 1 else n) 0

/-- The first member equal to a value. -/
def findEqual (m : Machine) (x : Value) : Nat → List Value → Run (Option Nat)
  | _, [] => return none
  | i, y :: rest => do if ← m.matches y x then return some i else findEqual m x (i + 1) rest

/-- The place of a value between two bounds. -/
private def indexIn (m : Machine) (items : List Value) (a : Args) (owner : String)
    (missing : Value → Run String) : Run Value := do
  let args ← a.between "index" 1 3 (owner ++ ".")
  let x := (args.headD none).getD .null
  let n := Int.ofNat items.length
  let cut (v : Option Value) (default : Int) : Run Nat := do
    match v with
    | none => return default.toNat
    | some v =>
      match v.int? with
      | some i => return (if i < 0 then max 0 (i + n) else i).toNat
      | none => Run.typeError "slice indices must be integers or have an __index__ method"
  let lo ← cut (args.getD 1 none) 0
  let hi ← cut (args.getD 2 none) n
  match ← findEqual m x lo ((items.take hi).drop lo) with
  | some i => return .int i
  | none => Run.valueError (← missing x)

private def notIn (what : String) (x : Value) : Run String := do return (← x.display) ++ " is not in " ++ what

/-! ## Lists -/

private def items (a : Addr) : Run (Array Value) := do
  match ← Run.load a with
  | .list xs => return xs
  | _ => return #[]

private def setItems (a : Addr) (xs : List Value) : Run Unit := Run.save a (.list xs.toArray)

/-- Calls a method of a list. -/
def callList (m : Machine) (a : Addr) (name : String) (args : Args) : Run Value := do
  let label := "list." ++ name
  let xs ← items a
  match name with
  | "append" =>
    let v ← args.one label
    Run.pushItem a v
    return .null
  | "clear" => do args.none label; setItems a []; return .null
  | "copy" => do args.none label; Run.list xs.toList
  | "count" => return .int (← countEqual m (← args.one label) xs.toList)
  | "extend" =>
    let more ← m.collect (← args.one label)
    let xs ← items a
    setItems a (xs.toList ++ more)
    return .null
  | "index" => indexIn m xs.toList args "list" (notIn "list")
  | "insert" =>
    match ← args.between name 2 2 "list." with
    | [some i, some v] =>
      let n := Int.ofNat xs.size
      let i ← i.size
      let k := (if i < 0 then max 0 (i + n) else min i n).toNat
      setItems a (xs.toList.take k ++ v :: xs.toList.drop k)
      return .null
    | _ => return .null
  | "pop" =>
    let i ← ((← args.between name 0 1 "list.").headD none |>.getD (.int (-1))).size
    if xs.isEmpty then Run.indexError "pop from empty list"
    match placeOf? xs.size i with
    | none => Run.indexError "pop index out of range"
    | some k =>
      setItems a (xs.toList.eraseIdx k)
      return xs.getD k .null
  | "remove" =>
    let v ← args.one label
    match ← findEqual m v 0 xs.toList with
    | some k => do setItems a (xs.toList.eraseIdx k); return .null
    | none => Run.valueError "list.remove(x): x not in list"
  | "reverse" => do args.none label; setItems a xs.toList.reverse; return .null
  | "sort" =>
    let given ← args.bound name ["key", "reverse"] 0 (some 0)
    let backward ← ((given.getD 1 none).getD (.bool false)).truthy
    let sorted ← Sorting.sorted m ((given.headD none).getD .null) backward xs.toList
    setItems a sorted
    return .null
  | _ => Run.attributeError ("'list' object has no attribute '" ++ name ++ "'")

/-! ## Tuples and ranges -/

/-- Calls a method of a tuple. -/
def callTuple (m : Machine) (xs : List Value) (name : String) (args : Args) : Run Value := do
  match name with
  | "count" => return .int (← countEqual m (← args.one "tuple.count") xs)
  | _ => indexIn m xs args "tuple" fun _ => return "tuple.index(x): x not in tuple"

/-- The place of a number in a range. -/
def rangePlace? (start stop step : Int) (v : Value) : Option Nat :=
  let n := match v with
    | .float x => Number.wholeValue? x
    | v => v.int?
  match n with
  | none => none
  | some n =>
    let inside := if step > 0 then start ≤ n && n < stop else stop < n && n ≤ start
    if inside && (n - start) % step == 0 then some ((n - start) / step).toNat else none

/-- Calls a method of a range. -/
def callRange (start stop step : Int) (name : String) (args : Args) : Run Value := do
  match name with
  | "count" =>
    let v ← args.one "range.count"
    return .int (if (rangePlace? start stop step v).isSome then 1 else 0)
  | _ =>
    let v ← args.one "range.index"
    match rangePlace? start stop step v with
    | some k => return .int k
    | none =>
      match v with
      | .int _ | .bool _ => Run.valueError (← notIn "range" v)
      | _ => Run.valueError "sequence.index(x): x not in sequence"

/-! ## Double-ended queues -/

/-- What a queue keeps of its items, the newest being at the end or at the front. -/
def keepLast (limit : Option Nat) (xs : List Value) : List Value :=
  match limit with
  | some n => xs.drop (xs.length - n)
  | none => xs

def keepFirst (limit : Option Nat) (xs : List Value) : List Value :=
  match limit with
  | some n => xs.take n
  | none => xs

/-- Moves items from the end to the front, or back if the number is negative. -/
private def rotated (xs : List Value) (n : Int) : List Value :=
  if xs.isEmpty then xs
  else
    let k := (n.fmod (Int.ofNat xs.length)).toNat
    xs.drop (xs.length - k) ++ xs.take (xs.length - k)

/-- Calls a method of a double-ended queue. -/
def callDeque (m : Machine) (a : Addr) (xs : List Value) (limit : Option Nat) (name : String)
    (args : Args) : Run Value := do
  let label := "deque." ++ name
  let put (ys : List Value) : Run Value := do Run.save a (.deque ys limit); return .null
  match name with
  | "append" => put (keepLast limit (xs ++ [← args.one label]))
  | "appendleft" => put (keepFirst limit ((← args.one label) :: xs))
  | "clear" => do args.none label; put []
  | "copy" => do args.none label; Run.new (.deque xs limit)
  | "count" => return .int (← countEqual m (← args.one label) xs)
  | "extend" => put (keepLast limit (xs ++ (← m.collect (← args.one label))))
  | "extendleft" => put (keepFirst limit ((← m.collect (← args.one label)).reverse ++ xs))
  | "index" => indexIn m xs args "deque" (notIn "deque")
  | "insert" =>
    match ← args.between name 2 2 "deque." with
    | [some i, some v] =>
      if limit == some xs.length then Run.indexError "deque already at its maximum size"
      let n := Int.ofNat xs.length
      let i ← i.size
      let k := (if i < 0 then max 0 (i + n) else min i n).toNat
      put (xs.take k ++ v :: xs.drop k)
    | _ => return .null
  | "pop" =>
    args.none label
    match xs.reverse with
    | [] => Run.indexError "pop from an empty deque"
    | x :: r => do let _ ← put r.reverse; return x
  | "popleft" =>
    args.none label
    match xs with
    | [] => Run.indexError "pop from an empty deque"
    | x :: r => do let _ ← put r; return x
  | "remove" =>
    let v ← args.one label
    match ← findEqual m v 0 xs with
    | some k => put (xs.eraseIdx k)
    | none => Run.valueError ((← v.display) ++ " is not in deque")
  | "reverse" => do args.none label; put xs.reverse
  | "rotate" =>
    let n ← ((← args.between name 0 1 "deque.").headD none |>.getD (.int 1)).size
    put (rotated xs n)
  | _ => Run.attributeError ("'collections.deque' object has no attribute '" ++ name ++ "'")

end Stepwise.Sequences
