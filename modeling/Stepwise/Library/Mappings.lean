import Stepwise.Context.Basic
import Stepwise.Library.Arguments
import Stepwise.Library.Sorting
import Stepwise.Run.Arithmetic
import Stepwise.Run.Index
/-!
# Methods of dictionaries

The methods that every dictionary has, and those that contexts, ordered dictionaries and counters
have besides.
-/

namespace Stepwise.Mappings

def methods : List String :=
  ["clear", "copy", "fromkeys", "get", "items", "keys", "pop", "popitem", "setdefault", "update", "values"]

/-- The methods that a flavour of dictionaries has besides. -/
def ownMethods : DictFlavour → List String
  | .context _ =>
    ["build", "get_bool", "get_callable", "get_dict", "get_float", "get_int", "get_list", "get_str", "snapshot"]
  | .ordered => ["move_to_end"]
  | .counter => ["elements", "most_common", "subtract", "total"]
  | _ => []

/-- The flavour of a copy: a copied context is a plain dictionary. -/
def copiedFlavour : DictFlavour → DictFlavour
  | .ordered => .ordered
  | .defaulting f => .defaulting f
  | .counter => .counter
  | _ => .plain

/-- A new dictionary that has one value for all keys of a source. -/
def fromKeys (m : Machine) (a : Args) : Run Dict := do
  let args ← a.between "fromkeys" 1 2 "dict."
  let keys ← m.collect ((args.headD none).getD .null)
  let v := (args.getD 1 none).getD .null
  Dict.putAll Dict.empty (keys.map fun k => (k, v))

/-- The pairs of the positional argument and of the arguments by name. -/
def givenPairs (m : Machine) (label : String) (a : Args) : Run (List (Value × Value)) := do
  if a.pos.length > 1 then
    Run.typeError (label ++ " expected at most 1 argument, got " ++ toString a.pos.length)
  let ps ← match a.pos with
    | [] => pure []
    | v :: _ => m.pairsOf v
  return ps ++ a.named.map fun (k, v) => (.str k, v)

/-! ## Counters -/

/-- The counts of a call that counts: the members of a source, or the counts of a mapping. -/
private def givenCounts (m : Machine) (a : Args) : Run (List (Value × Value)) := do
  let counts ← match a.pos.headD .null with
    | .null => pure []
    | v => do
      match ← v.dict? with
      | some (_, _, d) => pure d.pairs
      | none => pure ((← m.collect v).map fun k => (k, .int 1))
  return counts ++ a.named.map fun (k, v) => (.str k, v)

/-- Adds counts to a counter, or takes them off. -/
def count (m : Machine) (d : Dict) (a : Args) (op : BinaryOp) : Run Dict := do
  (← givenCounts m a).foldlM (fun (d : Dict) (k, n) => do
    let key ← k.key
    let old := (d.get? key).getD (.int 0)
    return d.put key k (← operate op old n)) d

private def callCounter (m : Machine) (a : Addr) (d : Dict) (name : String) (args : Args) : Run Value := do
  match name with
  | "update" => do Run.setDict a (← count m d args .add); return .null
  | "subtract" => do Run.setDict a (← count m d args .sub); return .null
  | "total" =>
    let _ ← args.assignedOf "Counter.total" [] []
    d.pairs.foldlM (fun t (_, n) => operate .add t n) (.int 0)
  | "elements" =>
    let _ ← args.assignedOf "Counter.elements" [] []
    let each ← d.pairs.mapM fun (k, n) => do return List.replicate (← n.index).toNat k
    Run.new (.cursor "itertools.chain" (.values each.flatten))
  | _ =>
    let given ← args.assignedOf "Counter.most_common" [] [("n", .null)]
    let sorted ← Sorting.sortKeyed m true (d.pairs.map fun (k, n) => (n, k))
    let all ← sorted.mapM fun (n, k) => Run.tuple [k, n]
    match (given.lookup "n").getD .null with
    | .null => Run.list all
    | n => Run.list (all.take (← n.index).toNat)

/-! ## All dictionaries -/

private def missingKey {α : Type} (k : Value) : Run α := Run.raiseWith "KeyError" [k]

private def pop (a : Addr) (d : Dict) (k : Value) (default : Option Value) : Run Value := do
  let key ← k.key
  match d.get? key, default with
  | some v, _ => do Run.setDict a (OrderedMap.erase d key); return v
  | none, some v => return v
  | none, none => missingKey k

/-- Takes the last or the first pair out. -/
private def popItem (a : Addr) (d : Dict) (last : Bool) : Run Value := do
  match if last then d.entries.getLast? else d.entries.head? with
  | none => Run.raiseWith "KeyError" [.str ("popitem(): dictionary is empty")]
  | some (key, k, v) =>
    Run.setDict a (OrderedMap.erase d key)
    Run.tuple [k, v]

/-- Moves a key to one of the ends. -/
private def moveToEnd (a : Addr) (d : Dict) (k : Value) (last : Bool) : Run Unit := do
  let key ← k.key
  match d.find? key with
  | none => missingKey k
  | some p =>
    let rest := (OrderedMap.erase d key).entries
    Run.setDict a ⟨if last then rest ++ [(key, p)] else (key, p) :: rest⟩

private def callPlain (m : Machine) (a : Addr) (f : DictFlavour) (d : Dict) (name : String) (args : Args) :
    Run Value := do
  let label := "dict." ++ name
  match name with
  | "clear" => do args.none label; Run.setDict a Dict.empty; return .null
  | "copy" => do args.none label; Run.new (.dict (copiedFlavour f) d)
  | "fromkeys" => Run.dict (← fromKeys m args)
  | "get" =>
    match ← args.between name 1 2 "dict." with
    | some k :: default => return (d.get? (← k.key)).getD ((default.headD none).getD .null)
    | _ => return .null
  | "keys" => do args.none label; Run.new (.view .keys a)
  | "values" => do args.none label; Run.new (.view .values a)
  | "items" => do args.none label; Run.new (.view .items a)
  | "pop" =>
    match ← args.between name 1 2 "dict." with
    | some k :: default => pop a d k (default.headD none)
    | _ => return .null
  | "popitem" => do args.none label; popItem a d true
  | "setdefault" =>
    match ← args.between name 1 2 "dict." with
    | some k :: default =>
      let key ← k.key
      match d.get? key with
      | some v => return v
      | none =>
        let v := (default.headD none).getD .null
        Run.putItem a k v
        return v
    | _ => return .null
  | "update" =>
    let ps ← givenPairs m "update" args
    ps.forM fun (k, v) => Run.putItem a k v
    return .null
  | _ => Run.attributeError ("'dict' object has no attribute '" ++ name ++ "'")

private def callOrdered (m : Machine) (a : Addr) (d : Dict) (name : String) (args : Args) : Run Value := do
  match name with
  | "move_to_end" =>
    let given ← args.bound name ["key", "last"] 1
    let last ← ((given.getD 1 none).getD (.bool true)).truthy
    moveToEnd a d ((given.headD none).getD .null) last
    return .null
  | "popitem" =>
    let given ← args.bound name ["last"]
    if d.isEmpty then Run.raiseWith "KeyError" [.str "dictionary is empty"]
    popItem a d (← ((given.headD none).getD (.bool true)).truthy)
  | "pop" =>
    let given ← args.bound name ["key", "default"] 1
    pop a d ((given.headD none).getD .null) (given.getD 1 none)
  | "setdefault" =>
    let given ← args.bound name ["key", "default"] 1
    callPlain m a .ordered d name ⟨given.filterMap id, []⟩
  | _ => callPlain m a .ordered d name args

/-- The arguments of an accessor of a context: a key, and perhaps a default. -/
private def callContext (m : Machine) (a : Addr) (d : Dict) (f : DictFlavour) (name : String) (args : Args) :
    Run Value := do
  match name, Context.Kind.ofAccessor? name with
  | _, some kind =>
    -- a default that was given is told from none at all
    let named := args.named.map (·.1)
    let hasDefault := args.pos.length > 1 || named.contains "default"
    let given ← args.assignedOf ("ExecutionContext." ++ name) ["key"] [("default", .null)]
    let value (n : String) : Value := (given.lookup n).getD .null
    Context.get kind a (value "key") (if hasDefault then some (value "default") else none)
  | "snapshot", none =>
    let _ ← args.assignedOf "ExecutionContext.snapshot" [] []
    Context.snapshot a
  | "build", none =>
    let given ← args.assignedOf "ExecutionContext.build" []
      [("defaults", .null), ("input_values", .null), ("extra_context", .null)]
    return .ref (← Context.build m (given.map (·.2)))
  | _, none => callPlain m a f d name args

/-- Calls a method of a dictionary. -/
def call (m : Machine) (a : Addr) (f : DictFlavour) (d : Dict) (name : String) (args : Args) : Run Value :=
  match f with
  | .counter =>
    if ["update", "subtract", "total", "elements", "most_common"].contains name then
      callCounter m a d name args
    else callPlain m a f d name args
  | .ordered => callOrdered m a d name args
  | .context _ => callContext m a d f name args
  | _ => callPlain m a f d name args

/-! ## Views -/

def viewMethods : ViewKind → List String
  | .values => []
  | _ => ["isdisjoint"]

end Stepwise.Mappings
