import Stepwise.Value.Compare
/-!
# Sources

Everything that can be read value by value. A source is asked for a reader, and a reader for its
next value; readers are objects, so that two of them never share a place unless they are the
same one.
-/

namespace Stepwise

/-- The number of members of a range. -/
def rangeSize (start stop step : Int) : Nat :=
  if step > 0 then (if start < stop then ((stop - start - 1) / step + 1).toNat else 0)
  else if step < 0 then (if stop < start then ((start - stop - 1) / (-step) + 1).toNat else 0)
  else 0

/-- The label of readers of texts. -/
private def reader (label : String) (c : Cursor) : Run Value := Run.new (.cursor label c)

/-- A new reader of a source; readers are their own. -/
def Value.reader (v : Value) : Run Value := do
  match ← v.payload with
  | .str s | .markup s =>
    Stepwise.reader "str_iterator" (.values (s.toList.map fun c => .str (String.singleton c)))
  | .bytes b => Stepwise.reader "bytes_iterator" (.values (b.map fun x => .int x.toNat))
  | .ref a =>
    match ← Run.load a with
    | .list _ => Stepwise.reader "list_iterator" (.listAt a 0 false)
    | .tuple _ xs => Stepwise.reader "tuple_iterator" (.values xs)
    | .dict _ d => Stepwise.reader "dict_keyiterator" (.dictAt .keys a 0 d.size false)
    | .set _ d => Stepwise.reader "set_iterator" (.setAt a 0 d.size)
    | .deque xs _ => Stepwise.reader "_collections._deque_iterator" (.values xs)
    | .range x y s => Stepwise.reader "range_iterator" (.range x s (rangeSize x y s))
    | .view kind d =>
      let size ← match ← Run.load d with
        | .dict _ dd => pure dd.size
        | _ => pure 0
      let label := match kind with
        | .keys => "dict_keyiterator" | .values => "dict_valueiterator" | .items => "dict_itemiterator"
      Stepwise.reader label (.dictAt kind d 0 size false)
    | .cursor .. | .generator .. | .tee .. | .loop _ => return v
    | .undefined u => if u.strict then failUndefined u else Stepwise.reader "generator" .done
    | _ => Run.typeError ("'" ++ (← v.kindName) ++ "' object is not iterable")
  | _ => Run.typeError ("'" ++ (← v.kindName) ++ "' object is not iterable")

/-- Can the value be read value by value? -/
def Value.isSource (v : Value) : Run Bool := do
  match ← Run.outcome v.reader with
  | .ok _ => return true
  | .error _ => return false

namespace Machine

/-- All remaining values of a reader. -/
def drain (m : Machine) (r : Value) : Run (List Value) :=
  Run.iterate (fun acc : List Value => do
    match ← m.advance r with
    | some v => return .inl (v :: acc)
    | none => return .inr acc.reverse) Run.patience []

/-- All values of a source. -/
def collect (m : Machine) (v : Value) : Run (List Value) := do
  match v with
  | .ref a =>
    match ← Run.load a with
    | .list xs => return xs.toList
    | .tuple _ xs => return xs
    | .dict _ d => return d.pairs.map (·.1)
    | .set _ d => return d.members
    | _ => m.drain (← v.reader)
  | _ => m.drain (← v.reader)

/-- Reads a source to its end, passing every value to a step that may stop early. -/
@[specialize] def forEach {σ : Type} (m : Machine) (v : Value) (s : σ)
    (step : σ → Value → Run (σ × Bool)) : Run σ := do
  let r ← v.reader
  Run.iterate (fun s : σ => do
    match ← m.advance r with
    | some x =>
      let (s, more) ← step s x
      return if more then .inl s else .inr s
    | none => return .inr s) Run.patience s

end Machine

/-! ## Reading on -/

/-- A value, if there is one, and what is left. -/
abbrev Advance := Run (Option Value × Cursor)

private def stop : Advance := return (none, .done)

/-- Reads from inner readers until a value passes. -/
private def findPassing (m : Machine) (source : Value) (pass : Value → Run Bool) : Run (Option Value) :=
  Run.iterate (fun _ : Unit => do
    match ← m.advance source with
    | none => return .inr none
    | some v => if ← pass v then return .inr (some v) else return .inl ()) Run.patience ()

private def testWith (m : Machine) (f v : Value) : Run Bool := do
  match f with
  | .null => v.truthy
  | _ => (← m.apply f [v]).truthy

private def skipValues (m : Machine) (source : Value) (n : Nat) : Run Bool :=
  Run.iterate (fun k : Nat => do
    if k = 0 then return .inr true
    else match ← m.advance source with
      | some _ => return .inl (k - 1)
      | none => return .inr false) Run.patience n

/-- One value of each source; nothing if the first of them that is asked has none. -/
private def nextOfEach (m : Machine) (sources : List Value) : Run (Option (List Value)) := do
  let rec go : List Value → List Value → Run (Option (List Value))
    | [], acc => return some acc.reverse
    | s :: r, acc => do
      match ← m.advance s with
      | some v => go r (v :: acc)
      | none => return none
  go sources []

/-- The next value of a source to be grouped, with its key. -/
private def readKeyed (m : Machine) (g : Grouping) : Run (Option (Value × Value)) := do
  match ← m.advance g.source with
  | none => return none
  | some v =>
    let k ← match g.f with
      | .null => pure v
      | f => m.apply f [v]
    return some (k, v)

/-- The next value of a cursor and the cursor behind it. `add` adds two values, for sums that are
accumulated. -/
def Cursor.step (m : Machine) (add : Value → Value → Run Value) (c : Cursor) : Advance := do
  match c with
  | .done => stop
  | .values [] => stop
  | .values (v :: rest) => return (some v, .values rest)
  | .listAt a i back =>
    match ← Run.load a with
    | .list xs =>
      if back then
        if i = 0 then stop
        else match xs[i - 1]? with
          | some v => return (some v, .listAt a (i - 1) true)
          | none => stop
      else match xs[i]? with
        | some v => return (some v, .listAt a (i + 1) false)
        | none => stop
    | _ => stop
  | .dictAt kind a i size back =>
    match ← Run.load a with
    | .dict _ d =>
      if d.size ≠ size then Run.raise "RuntimeError" "dictionary changed size during iteration"
      else if back && i = 0 then stop
      else match d.entries[if back then i - 1 else i]? with
        | none => stop
        | some (_, k, v) =>
          let next := Cursor.dictAt kind a (if back then i - 1 else i + 1) size back
          match kind with
          | .keys => return (some k, next)
          | .values => return (some v, next)
          | .items => return (some (← Run.tuple [k, v]), next)
    | _ => stop
  | .setAt a i size =>
    match ← Run.load a with
    | .set _ d =>
      if d.size ≠ size then Run.raise "RuntimeError" "Set changed size during iteration"
      else match d.members[i]? with
        | some v => return (some v, .setAt a (i + 1) size)
        | none => stop
    | _ => stop
  | .range next s left =>
    match left with
    | 0 => stop
    | k + 1 => return (some (.int next), .range (next + s) s k)
  | .enumerate source n =>
    match ← m.advance source with
    | some v => return (some (← Run.tuple [.int n, v]), .enumerate source (n + 1))
    | none => stop
  | .map f sources =>
    match ← nextOfEach m sources with
    | some vs => return (some (← m.apply f vs), c)
    | none => return (none, c)
  | .filter f source keep =>
    match ← findPassing m source (fun v => do return (← testWith m f v) == keep) with
    | some v => return (some v, c)
    | none => return (none, c)
  | .chain now rest more =>
    -- readers are opened one after the other, as each is reached
    Run.iterate (fun (now, rest) => do
      match now with
      | some r =>
        match ← m.advance r with
        | some v => return .inr (some v, Cursor.chain (some r) rest more)
        | none => return .inl (none, rest)
      | none =>
        match rest with
        | s :: rest => return .inl (some (← s.reader), rest)
        | [] =>
          match more with
          | some src =>
            match ← m.advance src with
            | some s => return .inl (some (← s.reader), [])
            | none => return .inr (none, .done)
          | none => return .inr (none, .done)) Run.patience (now, rest)
  | .slice source position next limit step =>
    match limit with
    | some l =>
      if next ≥ l then do
        -- the values before the limit are still read
        let _ ← skipValues m source (l - position)
        stop
      else go source position next limit step
    | none => go source position next limit step
  | .takeWhile f source =>
    match ← m.advance source with
    | some v => if ← testWith m f v then return (some v, c) else stop
    | none => stop
  | .dropWhile f source started =>
    if started then
      match ← m.advance source with
      | some v => return (some v, c)
      | none => return (none, c)
    else
      match ← findPassing m source (fun v => do return !(← testWith m f v)) with
      | some v => return (some v, .dropWhile f source true)
      | none => stop
  | .count n s => return (some n, .count (← add n s) s)
  | .cycle (some source) seen rest =>
    match ← m.advance source with
    | some v => return (some v, .cycle (some source) (v :: seen) rest)
    | none =>
      match seen.reverse with
      | [] => stop
      | v :: r => return (some v, .cycle none seen.reverse r)
  | .cycle none seen rest =>
    match rest with
    | v :: r => return (some v, .cycle none seen r)
    | [] =>
      match seen with
      | v :: r => return (some v, .cycle none seen r)
      | [] => stop
  | .repeat v none => return (some v, c)
  | .repeat v (some n) => if n = 0 then stop else return (some v, .repeat v (some (n - 1)))
  | .accumulate f source total started =>
    if !started && total.isSome then return (total, .accumulate f source total true)
    else match ← m.advance source with
      | none => stop
      | some v =>
        match total with
        | none => return (some v, .accumulate f source (some v) true)
        | some t =>
          let t' ← match f with
            | .null => add t v
            | f => m.apply f [t, v]
          return (some t', .accumulate f source (some t') true)
  | .groupBy shared =>
    match ← Run.load shared with
    | .grouping g =>
      -- skip what is left of the group before
      let found ← Run.iterate (fun (pending : Option (Value × Value)) => do
        match ← (match pending with | some p => pure (some p) | none => readKeyed m g) with
        | none => return .inr none
        | some (k, v) =>
          let old ← match g.key with
            | some old => m.matches old k
            | none => pure false
          return if old then .inl none else .inr (some (k, v))) Run.patience g.pending
      match found with
      | none => stop
      | some (k, v) =>
        Run.save shared (.grouping { g with key := some k, pending := some (k, v), number := g.number + 1 })
        let group ← Run.new (.cursor "itertools._grouper" (.group shared (g.number + 1)))
        return (some (← Run.tuple [k, group]), c)
    | _ => stop
  | .group shared number =>
    match ← Run.load shared with
    | .grouping g =>
      if g.number ≠ number then stop
      else
        match ← (match g.pending with | some p => pure (some p) | none => readKeyed m g) with
        | none => stop
        | some (k, v) =>
          let sameKey ← match g.key with
            | some old => m.matches old k
            | none => pure false
          if sameKey then
            Run.save shared (.grouping { g with pending := none })
            return (some v, c)
          else
            Run.save shared (.grouping { g with pending := some (k, v) })
            stop
    | _ => stop
  | .starMap f source =>
    match ← m.advance source with
    | some v => return (some (← m.apply f (← m.collect v)), c)
    | none => stop
  | .compress data selectors =>
    Run.iterate (fun _ : Unit => do
      match ← m.advance data with
      | none => return .inr (none, Cursor.done)
      | some v =>
        match ← m.advance selectors with
        | none => return .inr (none, Cursor.done)
        | some s => if ← s.truthy then return .inr (some v, c) else return .inl ()) Run.patience ()
  | .pairwise source last =>
    let first ← match last with
      | some v => pure (some v)
      | none => m.advance source
    match first with
    | none => stop
    | some v =>
      match ← m.advance source with
      | some w => return (some (← Run.tuple [v, w]), .pairwise source (some w))
      | none => stop
  | .zip sources none =>
    match ← nextOfEach m sources with
    | some [] => stop
    | some vs => return (some (← Run.tuple vs), c)
    | none => return (none, c)
  | .zip sources (some fill) =>
    let nexts ← sources.mapM m.advance
    if nexts.all Option.isNone then stop
    else return (some (← Run.tuple (nexts.map (·.getD fill))), c)
  | .tee shared i =>
    match ← Run.load shared with
    | .tee source seen =>
      match seen[i]? with
      | some v => return (some v, .tee shared (i + 1))
      | none =>
        match ← m.advance source with
        | some v =>
          Run.save shared (.tee source (seen ++ [v]))
          return (some v, .tee shared (i + 1))
        | none => return (none, c)
    | _ => stop
  | .untilEqual f sentinel =>
    let v ← m.apply f []
    if ← m.matches v sentinel then stop else return (some v, c)
  | .deferred f =>
    match ← m.collect (← m.apply f []) with
    | v :: rest => return (some v, .values rest)
    | [] => stop
  | .picks kind pools places =>
    match places with
    | none => stop
    | some is =>
      let picked := is.zipIdx.filterMap fun (i, k) =>
        (pools[if kind = .product then k else 0]?).bind (·[i]?)
      return (some (← Run.tuple picked), .picks kind pools (kind.next? (pools.map List.length) is))
  | .unique f source seen =>
    Run.iterate (fun _ : Unit => do
      match ← m.advance source with
      | none => return .inr (none, Cursor.done)
      | some v =>
        let k ← (← m.apply f [v]).key
        if seen.contains k then return .inl ()
        else return .inr (some v, .unique f source (k :: seen))) Run.patience ()
where
  go (source : Value) (position next : Nat) (limit : Option Nat) (step : Nat) : Advance := do
    if ← skipValues m source (next - position) then
      match ← m.advance source with
      | some v => return (some v, .slice source (next + 1) (next + step) limit step)
      | none => stop
    else stop

/-- Reads the next value of a reader. -/
def advanceReader (m : Machine) (add : Value → Value → Run Value) (r : Value) : Run (Option Value) := do
  match r with
  | .ref a =>
    match ← Run.load a with
    | .generator .. =>
      match ← m.resume a (.ok .null) with
      | .yielded v => return some v
      | .finished _ => return none
    | .cursor label c =>
      let (v, c') ← c.step m add
      Run.save a (.cursor label c')
      return v
    | _ => Run.typeError ("'" ++ (← r.kindName) ++ "' object is not an iterator")
  | _ => Run.typeError ("'" ++ (← r.kindName) ++ "' object is not an iterator")

end Stepwise
