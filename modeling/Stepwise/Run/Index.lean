import Stepwise.Run.Convert
/-!
# Parts of sequences and dictionaries

Reading, writing and deleting the item or the slice of a value that an index names. Negative
indexes count from the end; slices are cut to size.
-/

namespace Stepwise

/-! ## Slices -/

/-- The first index, the limit and the step of a slice in a sequence of a size. -/
structure SliceBounds where
  start : Int
  stop : Int
  step : Int
  deriving Inhabited

/-- A bound of a slice as a number. -/
def sliceBound (v : Value) : Run (Option Int) := do
  match v with
  | .null => return none
  | v =>
    match (← v.payload).int? with
    | some n => return some n
    | none => Run.typeError "slice indices must be integers or None or have an __index__ method"

/-- Cuts the bounds of a slice to a size. -/
def cutBounds (size : Nat) (lo hi : Option Int) (step : Int) : SliceBounds :=
  let n := Int.ofNat size
  let least := if step < 0 then -1 else 0
  let most := if step < 0 then n - 1 else n
  let cut (i : Int) : Int :=
    if i < 0 then max (i + n) least else min i most
  { start := match lo with
      | some i => cut i
      | none => if step < 0 then most else least
    stop := match hi with
      | some i => cut i
      | none => if step < 0 then least else most
    step := step }

def sliceBounds (size : Nat) (lo hi step : Value) : Run SliceBounds := do
  let s ← sliceBound step
  let s := s.getD 1
  if s = 0 then Run.valueError "slice step cannot be zero"
  let a ← sliceBound lo
  let b ← sliceBound hi
  return cutBounds size a b s

def SliceBounds.count (b : SliceBounds) : Nat := rangeSize b.start b.stop b.step

/-- The indexes that a slice takes, in order. -/
def SliceBounds.indexes (b : SliceBounds) : List Nat :=
  (List.range b.count).map fun k => (b.start + b.step * Int.ofNat k).toNat

private def pick {α : Type} (xs : Array α) (b : SliceBounds) : List α :=
  b.indexes.filterMap (xs[·]?)

private def slice? (v : Value) : Run (Option (Value × Value × Value)) := do
  match ← Run.object? v with
  | some (.slice a b c) => return some (a, b, c)
  | _ => return none

/-! ## Reading -/

/-- The place that an index names in a sequence of a size. -/
def placeOf? (size : Nat) (i : Int) : Option Nat :=
  let i := if i < 0 then i + Int.ofNat size else i
  if 0 ≤ i && i < Int.ofNat size then some i.toNat else none

private def whole? (v : Value) : Run (Option Int) := do return (← v.payload).int?

/-- An item or a slice of a sequence. -/
private def fromSequence {α : Type} (xs : Array α) (one : α → Value) (many : List α → Run Value)
    (label : String) (wrongKind : String → String) (i : Value) : Run Value := do
  match ← whole? i with
  | some n =>
    match placeOf? xs.size n with
    | some k =>
      match xs[k]? with
      | some x => return one x
      | none => Run.indexError (label ++ " index out of range")
    | none => Run.indexError (if label.isEmpty then "index out of range" else label ++ " index out of range")
  | none =>
    match ← slice? i with
    | some (a, b, c) => many (pick xs (← sliceBounds xs.size a b c))
    | none => Run.typeError (wrongKind (← i.kindName))

private def indicesOf (label : String) (kind : String) : String :=
  label ++ " indices must be integers or slices, not " ++ kind

/-- What a dictionary holds for a key that it does not have. -/
private def missing (m : Machine) (a : Addr) (f : DictFlavour) (k : Value) : Run Value := do
  match f with
  | .counter => return .int 0
  | .defaulting factory =>
    match factory with
    | .null => Run.raiseWith "KeyError" [k]
    | f =>
      let v ← m.apply f []
      Run.putItem a k v
      return v
  | _ => Run.raiseWith "KeyError" [k]

private def charText (make : String → Value) (c : Char) : Value := make (String.singleton c)

/-- The group of a match that a number or a name stands for. -/
def groupOf (groups : List (Option (Nat × Nat))) (names : List (String × Nat)) (i : Value) :
    Run Nat := do
  let bad : Run Nat := Run.indexError "no such group"
  match i with
  | .str s | .markup s =>
    match names.lookup s with
    | some k => return k
    | none => bad
  | i =>
    match i.int? with
    | some n => if 0 ≤ n && n < Int.ofNat groups.length then return n.toNat else bad
    | none => bad

/-- The text of a group, if it took part. -/
def groupText (subject : String) (groups : List (Option (Nat × Nat))) (k : Nat) : Value :=
  match groups.getD k none with
  | some (i, j) => .str (String.ofList ((subject.toList.drop i).take (j - i)))
  | none => .null

/-- The item of a value at an index. -/
def getItem (m : Machine) (v i : Value) : Run Value := do
  let refuse : Run Value := do Run.typeError ("'" ++ (← v.kindName) ++ "' object is not subscriptable")
  let wrongText (kind : String) : String := "string indices must be integers, not '" ++ kind ++ "'"
  match ← v.payload with
  | .str s =>
    fromSequence s.toList.toArray (charText .str) (fun l => return .str (String.ofList l)) "string" wrongText i
  | .markup s =>
    fromSequence s.toList.toArray (charText .markup) (fun l => return .markup (String.ofList l)) "string"
      wrongText i
  | .bytes b =>
    fromSequence b.toArray (fun x => .int x.toNat) (fun l => return .bytes l) "" (indicesOf "byte") i
  | .cls n =>
    if ["list", "dict", "set", "frozenset", "tuple", "type"].contains n then return v
    else Run.typeError ("type '" ++ Classes.shortName n ++ "' is not subscriptable")
  | .ref a =>
    match ← Run.load a with
    | .list xs => fromSequence xs id Run.list "list" (indicesOf "list") i
    | .tuple _ xs => fromSequence xs.toArray id Run.tuple "tuple" (indicesOf "tuple") i
    | .deque xs _ =>
      match ← whole? i with
      | some n =>
        match (placeOf? xs.length n).bind (xs[·]?) with
        | some x => return x
        | none => Run.indexError "deque index out of range"
      | none => Run.typeError ("sequence index must be integer, not '" ++ (← i.kindName) ++ "'")
    | .range x y s =>
      match ← whole? i with
      | some n =>
        match placeOf? (rangeSize x y s) n with
        | some k => return .int (x + s * Int.ofNat k)
        | none => Run.indexError "range object index out of range"
      | none =>
        match ← slice? i with
        | some (p, q, r) =>
          let b ← sliceBounds (rangeSize x y s) p q r
          Run.new (.range (x + s * b.start) (x + s * b.stop) (s * b.step))
        | none => Run.typeError (indicesOf "range" (← i.kindName))
    | .dict f d =>
      match Dict.get? d (← i.key) with
      | some x => return x
      | none => missing m a f i
    | .match_ _ subject groups names _ _ _ => return groupText subject groups (← groupOf groups names i)
    | .undefined u => if u.lenience == .chainable then return v else failUndefined u
    | .selfRef p =>
      match ← Run.load p, i.text? with
      | .page page, some id =>
        if page.blocks.any (·.id == id) then Run.new (.blockRef id p) else Run.raiseWith "KeyError" [i]
      | _, _ => Run.raiseWith "KeyError" [i]
    | .cls info => Run.typeError ("type '" ++ info.id ++ "' is not subscriptable")
    | _ => refuse
  | _ => refuse

/-! ## Writing -/

private def noAssignment {α : Type} (v : Value) : Run α := do
  Run.typeError ("'" ++ (← v.kindName) ++ "' object does not support item assignment")

/-- Replaces the items of a slice. -/
private def replaceSlice (xs : Array Value) (b : SliceBounds) (new : List Value) : Run (Array Value) := do
  if b.step = 1 then
    let lo := b.start.toNat
    let hi := max lo b.stop.toNat
    return (xs.toList.take lo ++ new ++ xs.toList.drop hi).toArray
  else
    let is := b.indexes
    if is.length ≠ new.length then
      Run.valueError ("attempt to assign sequence of size " ++ toString new.length ++
        " to extended slice of size " ++ toString is.length)
    return (is.zip new).foldl (fun xs (i, v) => xs.setIfInBounds i v) xs

/-- Writes the item of a value at an index. -/
def setItem (m : Machine) (v i x : Value) : Run Unit := do
  match v with
  | .ref a =>
    match ← Run.load a with
    | .list xs =>
      match ← whole? i with
      | some n =>
        match placeOf? xs.size n with
        | some k => Run.save a (.list (xs.setIfInBounds k x))
        | none => Run.indexError "list assignment index out of range"
      | none =>
        match ← slice? i with
        | some (p, q, r) =>
          let b ← sliceBounds xs.size p q r
          let new ← match ← Run.outcome x.reader with
            | .ok _ => m.collect x
            | .error _ => Run.typeError (if b.step = 1 then "can only assign an iterable"
                else "must assign iterable to extended slice")
          Run.save a (.list (← replaceSlice xs b new))
        | none => Run.typeError (indicesOf "list" (← i.kindName))
    | .dict .. => Run.putItem a i x
    | .deque xs l =>
      match ← whole? i with
      | some n =>
        match placeOf? xs.length n with
        | some k => Run.save a (.deque (xs.set k x) l)
        | none => Run.indexError "deque index out of range"
      | none => Run.typeError ("sequence index must be integer, not '" ++ (← i.kindName) ++ "'")
    | _ => noAssignment v
  | _ => noAssignment v

/-- Deletes the item or the slice of a value at an index. -/
def deleteItem (v i : Value) : Run Unit := do
  let refuse : Run Unit := do
    Run.typeError ("'" ++ (← v.kindName) ++ "' object doesn't support item deletion")
  match v with
  | .ref a =>
    match ← Run.load a with
    | .list xs =>
      match ← whole? i with
      | some n =>
        match placeOf? xs.size n with
        | some k => Run.save a (.list (xs.toList.eraseIdx k).toArray)
        | none => Run.indexError "list assignment index out of range"
      | none =>
        match ← slice? i with
        | some (p, q, r) =>
          let is := (← sliceBounds xs.size p q r).indexes
          let kept := (List.range xs.size).filter fun k => !is.contains k
          Run.save a (.list (kept.filterMap (xs[·]?)).toArray)
        | none => Run.typeError (indicesOf "list" (← i.kindName))
    | .dict f d =>
      let k ← i.key
      if OrderedMap.contains d k then Run.save a (.dict f (OrderedMap.erase d k))
      else Run.raiseWith "KeyError" [i]
    | _ => refuse
  | _ => refuse

/-! ## Membership -/

/-- Is a value among those of another? -/
def isMember (m : Machine) (x v : Value) : Run Bool := do
  let search (xs : List Value) : Run Bool := xs.anyM (m.matches · x)
  match ← ownMethod? v "__contains__" with
  | some f => (← m.apply f [v, x]).truthy
  | none =>
    match ← v.payload with
    | .str s | .markup s =>
      match (← x.payload).text? with
      | some t => return (Text.findFrom t.toList 0 s.toList).isSome
      | none =>
        Run.typeError ("'in <string>' requires string as left operand, not " ++ (← x.kindName))
    | .bytes b =>
      match x with
      | .bytes t => return contains t b
      | x =>
        match x.int? with
        | some n =>
          if n < 0 || n > 255 then Run.valueError "byte must be in range(0, 256)"
          else return b.contains n.toNat.toUInt8
        | none => Run.typeError ("a bytes-like object is required, not '" ++ (← x.kindName) ++ "'")
    | .ref a =>
      match ← Run.load a with
      | .list xs => search xs.toList
      | .tuple _ xs => search xs
      | .deque xs _ => search xs
      | .dict _ d => return OrderedMap.contains d (← x.key)
      | .set _ d =>
        -- a set is looked up as its frozen copy would be
        match ← Run.object? x with
        | some (.set false e) => do
          let f ← Run.new (.set true e)
          return OrderedMap.contains d (← f.key)
        | _ => return OrderedMap.contains d (← x.key)
      | .view .keys b =>
        match ← Run.load b with
        | .dict _ d => return OrderedMap.contains d (← x.key)
        | _ => return false
      | .range p q s =>
        match x.numeric? with
        | some (.whole n) =>
          return (if s > 0 then p ≤ n && n < q else q < n && n ≤ p) && (n - p) % s = 0
        | some (.real r) =>
          match Number.wholeValue? r with
          | some n => return (if s > 0 then p ≤ n && n < q else q < n && n ≤ p) && (n - p) % s = 0
          | none => return false
        | none => return false
      | .undefined u => if u.strict then failUndefined u else return false
      | .names n => return (n.vars.lookup (x.text?.getD "")).isSome
      | o => overSource o
    | _ => refuse
where
  refuse : Run Bool := do
    Run.typeError ("argument of type '" ++ (← v.kindName) ++ "' is not iterable")
  contains (t b : List UInt8) : Bool :=
    t.isEmpty || (List.range b.length).any fun i => (b.drop i).take t.length == t
  overSource (_ : Obj) : Run Bool := do
    match ← Run.outcome v.reader with
    | .error _ => refuse
    | .ok r =>
      Run.iterate (fun _ : Unit => do
        match ← m.advance r with
        | none => return .inr false
        | some y => if ← m.matches y x then return .inr true else return .inl ()) Run.patience ()

end Stepwise
