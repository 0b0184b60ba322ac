import Stepwise.Library.Builtins
import Stepwise.Library.Sorting
import Stepwise.Template.Operand
/-!
# Filters of sequences

Ordering, grouping and cutting of sources, and the choice of single values of them. What is
compared is a value itself or what a path leads to from it; texts are compared without regard to
case, unless that is asked for.
-/

namespace Stepwise.Template.Filter

/-! ## Keys -/

/-- A function that follows a path from a value. -/
def pathFunction (place : Place) (path : Value) (default : Option Value) (ignoreCase : Bool) : Run Value := do
  Run.new (.fitting (.attr (← pathOf path) default ignoreCase) place)

private def ignoresCase (a : Application) : Run Bool := do
  return !(← (a.argument "case_sensitive" (.bool false)).truthy)

/-- The key of a value, along the path that is an argument. -/
private def keyFunction (a : Application) : Run Value := do
  pathFunction a.place (a.argument "attribute" .null) (a.present? "default") (← ignoresCase a)

/-- Does a value that is an argument ask for the reverse order? -/
private def reversed (v : Value) : Run Bool := do return (← v.index) != 0

/-- Sorts by several paths at once. -/
private def sort (a : Application) : Run Value := do
  let m := a.machine
  let paths ← match a.argument "attribute" .null with
    | .str s | .markup s =>
      (Text.splitOn [','] none s.toList).mapM fun p => pathOf (.str (String.ofList p))
    | v => do pure [← pathOf v]
  let ignoreCase ← ignoresCase a
  let items ← m.collect a.value
  let backward ← reversed (a.argument "reverse" (.bool false))
  let keyed ← items.mapM fun v => do
    let keys ← paths.mapM fun p => do
      let k ← follow m a.place p none v
      return if ignoreCase then withoutCase k else k
    return (← Run.list keys, v)
  Run.list ((← Sorting.sortKeyed m backward keyed).map (·.2))

private def dictSort (a : Application) : Run Value := do
  let m := a.machine
  let side := a.argument "by" (.str "key")
  let place : Nat ← match side.text? with
    | some "key" => pure 0
    | some "value" => pure 1
    | _ => Run.raise Classes.filterArgumentError "You can only sort by either \"key\" or \"value\""
  let ignoreCase ← ignoresCase a
  let items ← m.collect (← callOwn m a.value "items" [])
  let backward ← reversed (a.argument "reverse" (.bool false))
  let keyed ← items.mapM fun v => do
    let k ← getItem m v (.int place)
    return (if ignoreCase then withoutCase k else k, v)
  Run.list ((← Sorting.sortKeyed m backward keyed).map (·.2))

private def unique (a : Application) : Run Value := do
  Run.new (.cursor "generator" (.unique (← keyFunction a) (← openedLater a.value) []))

/-! ## Groups -/

/-- Cuts values with keys into runs of equal keys. -/
private def runsOf (m : Machine) : List (Value × Value) → Run (List (Value × List Value))
  | [] => return []
  | (k, v) :: rest => do
    match ← runsOf m rest with
    | (k', vs) :: more =>
      if ← m.matches k k' then return (k, v :: vs) :: more else return (k, [v]) :: (k', vs) :: more
    | [] => return [(k, [v])]

private def groupBy (a : Application) : Run Value := do
  let m := a.machine
  let key ← keyFunction a
  let sorted ← Sorting.sortKeyed m false (← Sorting.keyed m key (← m.collect a.value))
  let again ← sorted.mapM fun (_, v) => do return (← m.apply key [v], v)
  let groups ← runsOf m again
  let record ← Run.alloc (.cls
    { id := "_GroupTuple", path := "_GroupTuple", bases := [.cls "tuple"], members := []
      fields := some ["grouper", "list"], bare := true, module := "jinja2.filters" })
  let exact ← pathFunction a.place (a.argument "attribute" .null) (a.present? "default") false
  Run.list (← groups.mapM fun (k, vs) => do
    -- the key is that of the first value, with its case
    let k ← match vs with
      | v :: _ => m.apply exact [v]
      | [] => pure k
    Run.new (.tuple (some record) [k, ← Run.list vs]))

/-! ## Single values -/

private def first (a : Application) : Run Value := do
  match ← firstOf? a.machine a.value with
  | some v => return v
  | none => a.place.because "No first item, sequence was empty."

private def last (a : Application) : Run Value := do
  let empty := a.place.because "No last item, sequence was empty."
  match ← Run.object? a.value with
  | some (.undefined u) => if u.strict then failUndefined u else empty
  | _ =>
    match ← firstOf? a.machine (← a.machine.apply (.cls "reversed") [a.value]) with
    | some v => return v
    | none => empty

/-- A value taken at random, where there is no choice. -/
private def random (a : Application) : Run Value := do
  match ← Builtins.size a.machine a.value with
  | .int 0 => a.place.because "No random item, sequence was empty."
  | .int 1 => getItem a.machine a.value (.int 0)
  | _ => Run.exhausted

private def extreme (op : Comparison) (a : Application) : Run Value := do
  let m := a.machine
  let r ← a.value.reader
  match ← m.advance r with
  | none => a.place.because "No aggregated item, sequence was empty."
  | some x =>
    let key ← keyFunction a
    let start := (← m.apply key [x], x)
    let (_, best) ← m.forEach r start fun (top, best) v => do
      let k ← m.apply key [v]
      return (if ← m.test op k top then (k, v) else (top, best), true)
    return best

private def sum (a : Application) : Run Value := do
  let source ← match a.present? "attribute" with
    | some path => do
      let f ← pathFunction a.place path none false
      Run.new (.cursor "map" (.map f [← a.value.reader]))
    | none => pure a.value
  Builtins.total a.machine ⟨[source, a.argument "start" (.int 0)], []⟩

/-! ## Orders and pieces -/

private def backwards (a : Application) : Run Value := do
  let m := a.machine
  let isText := a.value.text?.isSome
  if isText then getItem m a.value (← Run.new (.slice .null .null (.int (-1))))
  else
    match ← Run.object? a.value with
    | some (.undefined u) =>
      if u.strict then failUndefined u else Run.new (.cursor "reversed" .done)
    | _ =>
      match ← Run.outcome (m.apply (.cls "reversed") [a.value]) with
      | .ok r => return r
      | .error e =>
        if !(← Value.isSubclass (← Run.errorClass e) (.cls "TypeError")) then Run.raiseObject e
        match ← Run.outcome (m.collect a.value) with
        | .ok vs => Run.list vs.reverse
        | .error e =>
          if ← Value.isSubclass (← Run.errorClass e) (.cls "TypeError") then
            Run.raise Classes.filterArgumentError "argument must be iterable"
          else Run.raiseObject e

/-- Pieces of a size; the last may be filled up. -/
private def batches (a : Application) : Run Value := do
  let m := a.machine
  let size := a.argument "linecount" .null
  let (full, pending) ← m.forEach a.value (([], []) : List Value × List Value) fun (full, now) v => do
    if ← m.matches (.int now.length) size then
      return ((full ++ [← Run.list now], [v]), true)
    else return ((full, now ++ [v]), true)
  if pending.isEmpty then Run.list full
  else
    let rest ← match a.present? "fill_with" with
      | none => Run.list pending
      | some fill =>
        if ← m.test .lt (.int pending.length) size then
          let missing ← operate .sub size (.int pending.length)
          operate .add (← Run.list pending) (← operate .mul (← Run.list [fill]) missing)
        else Run.list pending
    Run.list (full ++ [rest])

/-- So many pieces of sizes that differ by one at most; those that are shorter may be filled up. -/
private def slices (a : Application) : Run Value := do
  let m := a.machine
  let count := a.argument "slices" .null
  let items ← m.collect a.value
  let size ← operate .floorDiv (.int items.length) count
  let longer ← operate .mod (.int items.length) count
  let n ← count.index
  let size := (size.int?.getD 0).toNat
  let longer := (longer.int?.getD 0).toNat
  let fill := a.present? "fill_with"
  Run.list (← (List.range n.toNat).mapM fun i => do
    let start := i * size + min i longer
    let piece := (items.drop start).take (size + if i < longer then 1 else 0)
    Run.list (match fill with
      | some f => if i ≥ longer then piece ++ [f] else piece
      | none => piece))

/-- The pairs of a mapping. -/
private def items (a : Application) : Run Value := do
  if ← isUndefined a.value then Run.list []
  else if (← a.value.dict?).isSome then callOwn a.machine a.value "items" []
  else Run.typeError "Can only get item pairs from a mapping."

/-- Leaves the work to when the result is read. -/
private def later (id : String) (a : Application) : Run Value := madeLater a.place id a.all

/-- The sources that these filters make when they are first read. -/
def laterSequence? : String → Option (Application → Run Value)
  | "batch" => some batches
  | "slice" => some slices
  | "items" => some items
  | _ => none

/-- The filters of sequences. -/
def ofSequences? : String → Option (Application → Run Value)
  | "sort" => some sort
  | "dictsort" => some dictSort
  | "unique" => some unique
  | "groupby" => some groupBy
  | "first" => some first
  | "last" => some last
  | "random" => some random
  | "max" => some (extreme .gt)
  | "min" => some (extreme .lt)
  | "sum" => some sum
  | "reverse" => some backwards
  | "list" => some fun a => do Run.list (← a.machine.collect a.value)
  | "batch" => some (later "batch")
  | "slice" => some (later "slice")
  | "items" => some (later "items")
  | _ => none

end Stepwise.Template.Filter
