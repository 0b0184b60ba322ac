import Stepwise.Library.Arguments
import Stepwise.Run.Source
/-!
# Building readers

Functions that make readers of other readers. Nothing is read before it is asked for, the pools
of the combinatorial ones aside.
-/

namespace Stepwise.Iteration

/-- The functions of this module; all but the last are classes of the readers that they make. -/
def classes : List String :=
  ["accumulate", "chain", "combinations", "combinations_with_replacement", "compress", "count", "cycle",
   "dropwhile", "filterfalse", "groupby", "islice", "pairwise", "permutations", "product", "repeat", "starmap",
   "takewhile", "zip_longest"]

def functions : List String := ["tee"]

private def make (name : String) (c : Cursor) : Run Value := Run.new (.cursor ("itertools." ++ name) c)

private def picks (m : Machine) (name : String) (kind : PickKind) (source : Value) (r : Option Value) :
    Run Value := do
  let pool ← m.collect source
  let r ← match r with
    | none | some .null => pure (Int.ofNat pool.length)
    | some v => v.index
  if r < 0 then Run.valueError "r must be non-negative"
  let pools := if kind = .product then [] else [pool]
  make name (.picks kind pools (kind.first? [pool.length] r.toNat))

private def product (m : Machine) (a : Args) : Run Value := do
  match a.named.find? (fun (k, _) => k != "repeat") with
  | some (k, _) => Run.typeError ("'" ++ k ++ "' is an invalid keyword argument for product()")
  | none => pure ()
  let n ← ((a.named.lookup "repeat").getD (.int 1)).index
  if n < 0 then Run.valueError "repeat argument cannot be negative"
  let pools ← a.pos.mapM m.collect
  let pools := (List.replicate n.toNat pools).flatten
  make "product" (.picks .product pools (PickKind.product.first? (pools.map List.length) 0))

/-- A bound of a slice that counts from the start. -/
private def sliceNumber (message : String) (v : Value) : Run (Option Nat) := do
  match v with
  | .null => return none
  | v =>
    match v.int? with
    | some n => if n < 0 || n.natAbs ≥ Nat.pow 2 63 then Run.valueError message else return some n.toNat
    | none => Run.valueError message

private def slice (a : Args) : Run Value := do
  a.noNames "islice"
  let stopMessage := "Stop argument for islice() must be None or an integer: 0 <= x <= sys.maxsize."
  let indexMessage :=
    "Indices for islice() must be None or an integer: 0 <= x <= sys.maxsize."
  let finish (source start stop step : Value) (message : String) : Run Value := do
    let r ← source.reader
    let stop ← sliceNumber message stop
    let start ← sliceNumber message start
    let step ← match step with
      | .null => pure 1
      | v =>
        match v.int? with
        | some n =>
          if n < 1 then Run.valueError "Step for islice() must be a positive integer or None." else pure n.toNat
        | none => Run.valueError "Step for islice() must be a positive integer or None."
    make "islice" (.slice r 0 (start.getD 0) stop step)
  match a.pos with
  | [source, stop] => finish source .null stop .null stopMessage
  | [source, start, stop] => finish source start stop .null indexMessage
  | [source, start, stop, step] => finish source start stop step indexMessage
  | xs =>
    let n := xs.length
    Run.typeError ("islice expected at " ++ (if n < 2 then "least 2 arguments" else "most 4 arguments") ++
      ", got " ++ toString n)

private def two (a : Args) (name : String) : Run (Value × Value) := do
  match ← a.between name 2 2 with
  | [some x, some y] => return (x, y)
  | _ => return (.null, .null)

private def argument (args : List (Option Value)) (i : Nat) : Value := (args.getD i none).getD .null

/-- Readers that share what they have read of one source. -/
private def tee (a : Args) : Run Value := do
  let args ← a.between "tee" 1 2
  let n ← match args.getD 1 none with
    | none => pure 2
    | some v => v.size
  if n < 0 then Run.valueError "n must be >= 0"
  let r ← (argument args 0).reader
  let shared ← Run.alloc (.tee r [])
  Run.tuple (← (List.range n.toNat).mapM fun _ => make "_tee" (.tee shared 0))

/-- Makes a reader. -/
def call (m : Machine) (name : String) (a : Args) : Run Value := do
  match name with
  | "chain" => do a.noNames name; make name (.chain none a.pos none)
  | "chain.from_iterable" => make "chain" (.chain none [] (some (← (← a.one "itertools.chain.from_iterable").reader)))
  | "islice" => slice a
  | "product" => product m a
  | "permutations" =>
    let args ← a.bound name ["iterable", "r"] 1
    picks m name .permutation (argument args 0) (args.getD 1 none)
  | "combinations" =>
    let args ← a.bound name ["iterable", "r"] 2
    picks m name .combination (argument args 0) (some (.int (← (argument args 1).size)))
  | "combinations_with_replacement" =>
    let args ← a.bound name ["iterable", "r"] 2
    picks m name .repeated (argument args 0) (some (.int (← (argument args 1).size)))
  | "count" =>
    let args ← a.bound name ["start", "step"]
    let start := (args.getD 0 none).getD (.int 0)
    let step := (args.getD 1 none).getD (.int 1)
    if start.numeric?.isNone || step.numeric?.isNone then Run.typeError "a number is required"
    make name (.count start step)
  | "cycle" =>
    match ← a.between name 1 1 with
    | [some v] => make name (.cycle (some (← v.reader)) [] [])
    | _ => return .null
  | "repeat" =>
    let args ← a.bound name ["object", "times"] 1
    let left ← (args.getD 1 none).mapM fun v => do return (← v.size).toNat
    make name (.repeat (argument args 0) left)
  | "accumulate" =>
    let args ← a.bound name ["iterable", "func", "initial"] 1 (some 2)
    let r ← (argument args 0).reader
    let start := match args.getD 2 none with
      | some .null => none
      | v => v
    make name (.accumulate (argument args 1) r start false)
  | "groupby" =>
    let args ← a.bound name ["iterable", "key"] 1
    let r ← (argument args 0).reader
    let shared ← Run.alloc (.grouping ⟨argument args 1, r, none, none, 0⟩)
    make name (.groupBy shared)
  | "zip_longest" =>
    if a.named.any (·.1 != "fillvalue") then
      Run.typeError "zip_longest() got an unexpected keyword argument"
    make name (.zip (← a.pos.mapM Value.reader) (some ((a.named.lookup "fillvalue").getD .null)))
  | "compress" =>
    let args ← a.bound name ["data", "selectors"] 2
    make name (.compress (← (argument args 0).reader) (← (argument args 1).reader))
  | "takewhile" => do let (f, v) ← two a name; make name (.takeWhile f (← v.reader))
  | "dropwhile" => do let (f, v) ← two a name; make name (.dropWhile f (← v.reader) false)
  | "filterfalse" => do let (f, v) ← two a name; make name (.filter f (← v.reader) false)
  | "starmap" => do let (f, v) ← two a name; make name (.starMap f (← v.reader))
  | "pairwise" =>
    match ← a.between name 1 1 with
    | [some v] => make name (.pairwise (← v.reader) none)
    | _ => return .null
  | "tee" => tee a
  | _ => Run.attributeError ("module 'itertools' has no attribute '" ++ name ++ "'")

end Stepwise.Iteration
