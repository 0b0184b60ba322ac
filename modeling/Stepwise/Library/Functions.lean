import Stepwise.Library.Arguments
import Stepwise.Run.Source
/-!
# Functions on functions

Folding, fixing arguments, and remembering results.
-/

namespace Stepwise.Functions

def functions : List String :=
  ["cache", "cmp_to_key", "lru_cache", "reduce", "total_ordering", "update_wrapper", "wraps"]

private def needCallable (f : Value) : Run Unit := do
  if !(← f.isCallable) then Run.typeError "the first argument must be callable"

/-- Combines the values of a source from the left. -/
private def reduce (m : Machine) (a : Args) : Run Value := do
  match ← a.between "reduce" 2 3 "functools." with
  | [some f, some source, start] =>
    if !(← source.isSource) then Run.typeError "reduce() arg 2 must support iteration"
    let r ← source.reader
    let first ← match start with
      | some v => pure (some v)
      | none => m.advance r
    match first with
    | none => Run.typeError "reduce() of empty iterable with no initial value"
    | some v => m.forEach r v fun acc x => do return (← m.apply f [acc, x], true)
  | _ => return .null

/-- A function with some of its arguments given. -/
def makePartial (a : Args) : Run Value := do
  match a.pos with
  | [] => Run.typeError "type 'partial' takes at least one argument"
  | f :: rest =>
    needCallable f
    match ← Run.object? f with
    | some (.partial' g before named) =>
      let kept := named.filter fun (k, _) => (a.named.lookup k).isNone
      Run.new (.partial' g (before ++ rest) (kept ++ a.named))
    | _ => Run.new (.partial' f rest a.named)

/-- The arguments with those that were given before. -/
def withGiven (before : List Value) (named : List (String × Value)) (a : Args) : Args :=
  let kept := named.map fun (k, v) => (k, (a.named.lookup k).getD v)
  ⟨before ++ a.pos, kept ++ a.named.filter fun (k, _) => (named.lookup k).isNone⟩

/-! ## Remembering results -/

private def remember (limit : Option Nat) (f : Value) : Run Value := do
  needCallable f
  Run.new (.cached f limit [] 0 0)

/-- A function that stands for a step still to be made with these arguments. -/
private def later (name : String) (args : List Value) : Run Value :=
  Run.new (.partial' (.fn ("functools." ++ name)) args [])

private def limitOf (v : Value) : Run (Option Nat) := do
  match v with
  | .null => return none
  | v =>
    match v.int? with
    | some n => return some n.toNat
    | none => Run.typeError "Expected first argument to be an integer, a callable, or None"

/-- Calls a function that remembers its results: the oldest one is forgotten when there are too many. -/
def callCached (m : Machine) (self : Addr) (args : Args) : Run Value := do
  match ← Run.load self with
  | .cached f limit store hits misses =>
    if limit == some 0 then
      Run.save self (.cached f limit store hits (misses + 1))
      m.call f args
    else
      let keys ← args.pos.mapM Value.key
      let named ← args.named.mapM fun (k, v) => do return KeyPart.word k :: (← v.key)
      let key : Key := KeyPart.tuple keys.length :: (keys.flatten ++ named.flatten)
      match store.lookup key with
      | some v =>
        let store := (store.filter fun p => p.1 != key) ++ [(key, v)]
        Run.save self (.cached f limit store (hits + 1) misses)
        return v
      | none =>
        let v ← m.call f args
        match ← Run.load self with
        | .cached f limit store hits misses =>
          let store := store ++ [(key, v)]
          let store := match limit with
            | some n => store.drop (store.length - n)
            | none => store
          Run.save self (.cached f limit store hits (misses + 1))
        | _ => pure ()
        return v
  | _ => return .null

def cachedMethods : List String := ["cache_clear", "cache_info", "cache_parameters"]

/-- Calls a method of a function that remembers its results. -/
def callCachedMethod (self : Addr) (name : String) (args : Args) : Run Value := do
  args.none name
  match ← Run.load self with
  | .cached f limit store hits misses =>
    let limitValue := (limit.map fun n => Value.int n).getD .null
    match name with
    | "cache_clear" => do Run.save self (.cached f limit [] 0 0); return .null
    | "cache_info" =>
      let fields := ["hits", "misses", "maxsize", "currsize"]
      let cls ← Run.alloc (.cls
        { id := "CacheInfo", path := "CacheInfo", bases := [.cls "tuple"], members := [], fields := some fields,
          module := "functools" })
      Run.new (.tuple (some cls) [.int hits, .int misses, limitValue, .int store.length])
    | _ => Run.dict (Dict.ofTexts [("maxsize", limitValue), ("typed", .bool false)])
  | _ => return .null

/-! ## Completing an order -/

/-- The comparisons from which the others can be had, the preferred one first. -/
private def orderMethods : List String := ["__lt__", "__le__", "__gt__", "__ge__"]

/-- Gives a class of a script the comparisons that it lacks. -/
private def completeOrder (cls : Value) : Run Value := do
  let members ← orderMethods.mapM fun n => do return (n, ← classMember? cls n)
  match members.find? (·.2.isSome), cls with
  | some (root, _), .ref a =>
    let lacking := (members.filter (·.2.isNone)).map (·.1)
    let made := lacking.map fun n => (n, Value.fn ("functools..compare " ++ root ++ " " ++ n))
    Run.update a fun o => match o with
      | .cls info => .cls { info with members := info.members ++ made }
      | o => o
    return cls
  | _, _ => Run.valueError "must define at least one ordering operation: < > <= >="

/-- A comparison by way of another one and of equality. -/
private def compareBy (m : Machine) (root wanted : String) (a b : Value) : Run Value := do
  match ← ownMethod? a root with
  | none => return .notImplemented
  | some f =>
    match ← m.apply f [a, b] with
    | .notImplemented => return .notImplemented
    | r =>
      let holds ← r.truthy
      let equal : Run Bool := do (← m.compare .eq a b).truthy
      let strict (n : String) : Bool := n == "__lt__" || n == "__gt__"
      let ascending (n : String) : Bool := n == "__lt__" || n == "__le__"
      if ascending root == ascending wanted then
        -- the same direction: strict and not
        if strict wanted then return .bool (holds && !(← equal)) else return .bool (holds || (← equal))
      else if strict root != strict wanted then return .bool !holds
      else if strict wanted then return .bool (!holds && !(← equal))
      else return .bool (!holds || (← equal))

/-! ## The functions -/

/-- Calls a function of this module. The names that start with a dot are the second steps of the
others. -/
def call (m : Machine) (name : String) (a : Args) : Run Value := do
  match name with
  | "reduce" => reduce m a
  | "cache" =>
    let given ← a.assigned name ["user_function"] []
    remember none ((given.lookup "user_function").getD .null)
  | "lru_cache" =>
    let given ← a.assigned name [] [("maxsize", .int 128), ("typed", .bool false)]
    let limit := (given.lookup "maxsize").getD .null
    if ← limit.isCallable then remember (some 128) limit
    else
      let _ ← limitOf limit
      later ".remembering" [limit]
  | ".remembering" =>
    match a.pos with
    | [limit, f] => remember (← limitOf limit) f
    | _ => Run.typeError "lru_cache.<locals>.decorating_function() missing 1 required positional argument: 'user_function'"
  | "cmp_to_key" =>
    let args ← a.bound name ["mycmp"] 1
    later ".ordered" [(args.headD none).getD .null]
  | ".ordered" =>
    match a.pos with
    | [f, v] => Run.new (.comparable f v)
    | _ => Run.typeError "K() missing required argument 'obj' (pos 1)"
  | "wraps" =>
    let given ← a.assigned name ["wrapped"] [("assigned", .null), ("updated", .null)]
    later ".wrapping" [(given.lookup "wrapped").getD .null]
  | ".wrapping" =>
    match a.pos with
    | [_, f] => return f
    | _ => Run.typeError "update_wrapper() missing 1 required positional argument: 'wrapper'"
  | "update_wrapper" =>
    let given ← a.assigned name ["wrapper", "wrapped"] [("assigned", .null), ("updated", .null)]
    return (given.lookup "wrapper").getD .null
  | "total_ordering" =>
    let given ← a.assigned name ["cls"] []
    completeOrder ((given.lookup "cls").getD .null)
  | _ =>
    match name.splitOn " ", a.pos with
    | [".compare", root, wanted], [x, y] => compareBy m root wanted x y
    | _, _ => Run.attributeError ("module 'functools' has no attribute '" ++ name ++ "'")

end Stepwise.Functions
