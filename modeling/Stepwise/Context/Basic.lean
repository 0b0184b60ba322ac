import Stepwise.Run.Convert
/-!
# Contexts

The context of a run is a dictionary that every step reads and writes. It is made from layers,
each of which overrides the ones before, and starts with the key `output` holding nothing.
-/

namespace Stepwise.Context

/-- The key that every context starts with. -/
def outputKey : String := "output"

/-- The contents of a context are put in layer by layer; `output` comes first and is empty at
the end whatever the layers hold. -/
def contents (layers : List (List (Key × Value × Value))) : Dict :=
  let start : Dict := Dict.ofTexts [(outputKey, .null)]
  let full := layers.foldl (fun d layer => layer.foldl (fun d (k, s, v) => d.put k s v) d) start
  full.putText outputKey .null

/-- The pairs of a layer with their keys; a layer that is empty or missing has none. -/
def layerOf (m : Machine) (layer : Value) : Run (List (Key × Value × Value)) := do
  if ← layer.truthy then
    (← m.pairsOf layer).mapM fun (k, v) => do return (← k.key, k, v)
  else return []

/-- A new context over layers. -/
def build (m : Machine) (layers : List Value) : Run Addr := do
  let ls ← layers.mapM (layerOf m)
  Run.alloc (.dict (.context []) (contents ls))

/-- A new context with the contents of a value. -/
def ofValue (m : Machine) (v : Option Value) : Run Addr := do
  let d : Dict ← match v with
    | none => pure Dict.empty
    | some v => do
      match ← v.dict? with
      | some (_, _, d) => pure d
      | none => Dict.putAll Dict.empty (← m.pairsOf v)
  let d : Dict := match d.getText? outputKey with
    | some _ => d
    | none => d.putText outputKey .null
  Run.alloc (.dict (.context []) d)

/-- The contents of a context. -/
def dict (context : Addr) : Run Dict := do
  match ← Run.load context with
  | .dict _ d => return d
  | _ => return Dict.empty

/-- Writes the output. -/
def setOutput (context : Addr) (v : Value) : Run Unit :=
  Run.putItem context (.str outputKey) v

def output (context : Addr) : Run Value := do
  return ((← dict context).getText? outputKey).getD .null

/-- A plain dictionary with the same contents. -/
def snapshot (context : Addr) : Run Value := do Run.dict (← dict context)

/-- The attribute that a script gave the context under a name. -/
def given? (context : Addr) (id : String) : Run (Option Value) := do
  match ← Run.load context with
  | .dict (.context given) _ => return given.lookup id
  | _ => return none

/-- What the context tells as its output. It looks with its own `get`, for which a script can have put another one. -/
def tellOutput (m : Machine) (context : Addr) : Run Value := do
  match ← given? context "get" with
  | some get => m.apply get [.str outputKey]
  | none => output context

/-- The snapshot that the context gives when it is asked for one; that too can have been replaced. -/
def giveSnapshot (m : Machine) (context : Addr) : Run Value := do
  match ← given? context "snapshot" with
  | some give => m.apply give []
  | none => snapshot context

def has (context : Addr) (key : Value) : Run Bool := do
  return ((← dict context).get? (← key.key)).isSome

/-- Removes an item, which must be there. -/
def erase (context : Addr) (key : Value) : Run Unit := do
  let d ← dict context
  let k ← key.key
  match d.find? k with
  | none => Run.raiseWith "KeyError" [key]
  | some _ => Run.setDict context (OrderedMap.erase d k)

/-- Writes the pairs of a value. -/
def update (m : Machine) (context : Addr) (v : Value) : Run Unit := do
  let ps ← m.pairsOf v
  ps.forM fun (k, x) => Run.putItem context k x

/-! ## Accessors that insist on a kind -/

/-- The kinds that an accessor can insist on. -/
inductive Kind where
  | str | int | float | bool | list | dict | callable
  deriving DecidableEq, Inhabited

def Kind.label : Kind → String
  | str => "str" | int => "int" | float => "float" | bool => "bool" | list => "list"
  | dict => "dict" | callable => "callable"

/-- The kind that an accessor's name asks for. -/
def Kind.ofAccessor? : String → Option Kind
  | "get_str" => some str | "get_int" => some int | "get_float" => some float
  | "get_bool" => some bool | "get_list" => some list | "get_dict" => some dict
  | "get_callable" => some callable
  | _ => none

/-- Does the value belong to the kind? Truth values count as numbers here. -/
def Kind.accepts (k : Kind) (v : Value) : Run Bool := do
  let v' ← v.payload
  match k with
  | str => return v'.text?.isSome
  | int => return v'.int?.isSome
  | float => return v'.numeric?.isSome
  | bool => match v with | .bool _ => return true | _ => return false
  | list => return (← v'.list?).isSome || (← v'.tuple?).isSome
  | dict => return (← v'.dict?).isSome
  | callable => v'.isCallable

def wrongKind {α : Type} (k : Kind) (key v : Value) : Run α := do
  Run.raise Classes.contextTypeError
    ("Context key '" ++ (← key.plain) ++ "' is " ++ (← v.kindName) ++ ", expected " ++ k.label)

/-- What the accessor makes of the value that it found or was given: truth values are no numbers,
and `float` converts. -/
def Kind.finish (k : Kind) (key v : Value) : Run Value := do
  match k with
  | int | float =>
    match v with
    | .bool _ =>
      Run.raise Classes.contextTypeError
        ("Context key '" ++ (← key.plain) ++ "' is a bool, expected " ++ k.label)
    | _ => if k = float then return .float (← v.convertToFloat) else return v
  | _ => return v

/-- The value under a key, which must be of the kind; without one the default counts. -/
def get (k : Kind) (context : Addr) (key : Value) (default : Option Value) : Run Value := do
  match (← dict context).get? (← key.key) with
  | none =>
    match default with
    | none => Run.raiseWith "KeyError" [key]
    | some d => k.finish key d
  | some v => if ← k.accepts v then k.finish key v else wrongKind k key v

end Stepwise.Context
