import Stepwise.Library.Arguments
import Stepwise.Run.Arithmetic
/-!
# Methods of sets

A set is a dictionary whose values do not count. The methods that combine sets take any source
that can be read.
-/

namespace Stepwise.Sets

def methods : List String :=
  ["copy", "difference", "intersection", "isdisjoint", "issubset", "issuperset", "symmetric_difference",
   "union"]

/-- The methods that change a set. -/
def changingMethods : List String :=
  ["add", "clear", "difference_update", "discard", "intersection_update", "pop", "remove",
   "symmetric_difference_update", "update"]

/-- The members of a source as a dictionary. -/
def ofSource (m : Machine) (v : Value) : Run Dict := do
  match ← Run.object? v with
  | some (.set _ d) => return d
  | _ => Dict.putAll Dict.empty ((← m.collect v).map fun x => (x, .null))

private def below (d e : Dict) : Bool := d.keys.all fun k => OrderedMap.contains e k

/-- The members of exactly one of two sets. -/
private def either (d e : Dict) : Dict := Dict.union (d.keep e false) (e.keep d false)

private def combine (m : Machine) (f : Dict → Dict → Dict) (d : Dict) (others : List Value) : Run Dict :=
  others.foldlM (fun d v => do return f d (← ofSource m v)) d

/-- Calls a method of a set. -/
def call (m : Machine) (a : Addr) (frozen : Bool) (d : Dict) (name : String) (args : Args) : Run Value := do
  let label := (if frozen then "frozenset." else "set.") ++ name
  let fresh (e : Dict) : Run Value := Run.new (.set frozen e)
  let save (e : Dict) : Run Value := do Run.save a (.set frozen e); return .null
  let others : Run (List Value) := do args.noNames label; return args.pos
  match name with
  | "copy" => do args.none label; if frozen then return .ref a else fresh d
  | "union" => fresh (← combine m Dict.union d (← others))
  | "intersection" => fresh (← combine m (fun d e => d.keep e true) d (← others))
  | "difference" => fresh (← combine m (fun d e => d.keep e false) d (← others))
  | "symmetric_difference" => fresh (either d (← ofSource m (← args.one label)))
  | "isdisjoint" => return .bool ((d.keep (← ofSource m (← args.one label)) true).isEmpty)
  | "issubset" => return .bool (below d (← ofSource m (← args.one label)))
  | "issuperset" => return .bool (below (← ofSource m (← args.one label)) d)
  | "add" =>
    let v ← args.one label
    save (d.put (← v.key) v .null)
  | "clear" => do args.none label; save Dict.empty
  | "discard" =>
    let v ← args.one label
    save (OrderedMap.erase d (← v.key))
  | "remove" =>
    let v ← args.one label
    let k ← v.key
    if OrderedMap.contains d k then save (OrderedMap.erase d k) else Run.raiseWith "KeyError" [v]
  | "pop" =>
    args.none label
    match d.members with
    | [] => Run.raiseWith "KeyError" [.str "pop from an empty set"]
    | v :: _ => do let _ ← save (OrderedMap.erase d (← v.key)); return v
  | "update" => save (← combine m Dict.union d (← others))
  | "intersection_update" => save (← combine m (fun d e => d.keep e true) d (← others))
  | "difference_update" => save (← combine m (fun d e => d.keep e false) d (← others))
  | "symmetric_difference_update" => save (either d (← ofSource m (← args.one label)))
  | _ => Run.attributeError ("'set' object has no attribute '" ++ name ++ "'")

end Stepwise.Sets
