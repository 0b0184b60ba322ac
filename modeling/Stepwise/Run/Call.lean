import Stepwise.Script.Step
import Stepwise.Template.Component
/-!
# Calls

What calling a value does, by what the value is.
-/

namespace Stepwise

/-! ## Methods -/

/-- Prints to where a function collects: the texts of the values with a separator between them, and
a line in the log. -/
private def printTo (collection : Value) (a : Args) : Run Value := do
  match a.named.find? fun (k, _) => !(["sep", "end", "file", "flush"].contains k) with
  | some (k, _) => Run.typeError ("'" ++ k ++ "' is an invalid keyword argument for print()")
  | none => pure ()
  let textOr (name default : String) : Run String := do
    match (a.named.lookup name).getD .null with
    | .null => return default
    | v =>
      match v.text? with
      | some s => return s
      | none => Run.typeError (name ++ " must be None or a string, not " ++ (← v.kindName))
  let sep ← textOr "sep" " "
  let fin ← textOr "end" "\n"
  match (a.named.lookup "file").getD .null with
  | .null => pure ()
  | v => Run.attributeError ("'" ++ (← v.kindName) ++ "' object has no attribute 'write'")
  let texts ← a.pos.mapM Value.plain
  match collection with
  | .ref p => Run.update p fun o => match o with
    | .printer ts => .printer (ts ++ [Text.joinWith sep texts ++ fin])
    | o => o
  | _ => pure ()
  Run.log .debug ("script print: " ++ Text.joinWith " " (← a.pos.mapM Value.plain))
  return .null

/-- Raises the end of a generator with its value. -/
private def stopWith (v : Value) : Run Value :=
  match v with
  | .null => Run.raiseWith "StopIteration" [] [("value", .null)]
  | v => Run.raiseWith "StopIteration" [v] [("value", v)]

/-- Is the value a class of errors? -/
private def isErrorClass (v : Value) : Run Bool := do
  match v with
  | .cls _ => v.isErrorClass
  | _ =>
    match ← Run.object? v with
    | some (.cls _) => v.isErrorClass
    | _ => return false

/-- The error that the arguments of a throw stand for. -/
private def thrown (m : Machine) (a : Args) : Run Addr := do
  let refuse : Run Addr := do
    Run.typeError ("exceptions must be classes or instances deriving from BaseException, not " ++
      (← (a.pos.headD .null).kindName))
  match a.pos with
  | [] => Run.typeError "throw expected at least 1 argument, got 0"
  | e :: rest =>
    match ← Run.object? e, e with
    | some (.error ..), .ref x => return x
    | _, _ =>
      if ← isErrorClass e then
        match ← m.apply e ((rest.take 1).filter fun v => !v.isNull) with
        | .ref x => return x
        | _ => refuse
      else refuse

private def callGenerator (m : Machine) (g : Addr) (id : String) (a : Args) : Run Value := do
  let answer (t : Turn) : Run Value :=
    match t with
    | .yielded v => return v
    | .finished v => stopWith v
  match id with
  | "send" => answer (← m.resume g (.ok (← a.one "generator.send")))
  | "throw" => answer (← m.resume g (.error (← thrown m a)))
  | _ =>
    a.none "generator.close"
    match ← Run.load g with
    | .generator _ gen =>
      if gen.status = .finished then return .null
      let e ← Run.alloc (.error (.cls "GeneratorExit") [] [])
      match ← Run.outcome (m.resume g (.error e)) with
      | .ok (.yielded _) => Run.raise "RuntimeError" "generator ignored GeneratorExit"
      | .ok (.finished _) => return .null
      | .error x =>
        let c ← Run.errorClass x
        if (← Value.isSubclass c (.cls "GeneratorExit")) || (← Value.isSubclass c (.cls "StopIteration")) then
          return .null
        else Run.raiseObject x
    | _ => return .null

private def callPending (m : Machine) (host : Host) (v : Value) (id : String) (a : Args) : Run Value := do
  match id with
  | "send" => do
    let _ ← a.one "coroutine.send"
    stopWith (← Builtins.await host v)
  | "throw" => Run.raiseObject (← thrown m a)
  | _ =>
    match v with
    | .ref b => Run.update b fun o => match o with
      | .pendingCall f args named _ => .pendingCall f args named true
      | o => o
    | _ => pure ()
    return .null

private def callView (m : Machine) (v : Value) (a : Args) : Run Value := do
  let other ← a.one "dict_keys.isdisjoint"
  let xs ← m.collect other
  let shared ← xs.anyM fun x => isMember m x v
  return .bool !shared

/-- Methods that belong to a class. -/
private def callClassMethod (m : Machine) (cls id : String) (a : Args) : Run Value := do
  match id with
  | "fromkeys" =>
    match cls with
    | "collections.Counter" =>
      Run.raise "NotImplementedError" "Counter.fromkeys() is undefined.  Use Counter(iterable) instead."
    | "collections.OrderedDict" => Run.new (.dict .ordered (← Mappings.fromKeys m a))
    | "collections.defaultdict" => Run.new (.dict (.defaulting .null) (← Mappings.fromKeys m a))
    | "jinx.context.ExecutionContext" => Run.new (.dict (.context []) (← Mappings.fromKeys m a))
    | _ => Run.dict (← Mappings.fromKeys m a)
  | "from_bytes" => Numbers.ofBytes m a
  | "fromhex" =>
    let v ← a.one (cls ++ ".fromhex")
    if cls == "bytes" then Bytes.ofHex v else Numbers.ofHex v
  | "maketrans" => Texts.makeTable a
  | "build" =>
    let given ← a.assignedOf "ExecutionContext.build" []
      [("defaults", .null), ("input_values", .null), ("extra_context", .null)]
    return .ref (← Context.build m (given.map (·.2)))
  | "from_iterable" => Iteration.call m "chain.from_iterable" a
  | "mro" => Run.list (← Value.lineage (.cls cls))
  | _ => Moments.callClass cls id a

/-- Calls a method of a value that every program knows. -/
def callMethod (m : Machine) (host : Host) (self : Value) (id : String) (a : Args) : Run Value := do
  let missing : Run Value := do
    Run.attributeError ("'" ++ (← self.kindName) ++ "' object has no attribute '" ++ id ++ "'")
  match ← self.payload with
  | .null => if id == "print" then printTo .null a else missing
  | .str s => Texts.call m false s id a
  | .markup s => Texts.call m true s id a
  | .bytes b => Bytes.call m b id a
  | .int n => Numbers.callInt m n id a
  | .bool b => Numbers.callInt m (if b then 1 else 0) id a
  | .float x => Numbers.callFloat x id a
  | .cls c => callClassMethod m c id a
  | .ref r =>
    let v := Value.ref r
    let o ← Run.load r
    match o with
    | .list _ => Sequences.callList m r id a
    | .tuple _ xs => Sequences.callTuple m xs id a
    | .dict f d => Mappings.call m r f d id a
    | .set frozen d => Sets.call m r frozen d id a
    | .deque xs limit => Sequences.callDeque m r xs limit id a
    | .range x y s => Sequences.callRange x y s id a
    | .slice x y s =>
      let n ← (← a.one "slice.indices").index
      if n < 0 then Run.valueError "length should not be negative"
      let b ← sliceBounds n.toNat x y s
      Run.tuple [.int b.start, .int b.stop, .int b.step]
    | .complex x y => do
      a.none "complex.conjugate"
      Run.new (.complex x (-y))
    | .date _ | .datetime _ | .time .. | .span _ | .zone .. => Moments.call o id a
    | .error .. => Errors.call v id a
    | .generator .. => callGenerator m r id a
    | .view .. => callView m v a
    | .cached .. => Functions.callCachedMethod r id a
    | .pattern text flags => Patterns.callPattern m r text flags id a
    | .match_ p subject groups names _ _ _ => Patterns.callMatch p subject groups names id a
    | .templateText s => Words.callTemplate m s id a
    | .pendingCall .. => callPending m host v id a
    | .printer _ => printTo v a
    | .loop l => Loop.call m r l id a
    | .cycler items i =>
      a.none ("Cycler." ++ id)
      if id == "reset" then
        Run.save r (.cycler items 0)
        return .null
      else
        Run.save r (.cycler items ((i + 1) % items.length))
        return items.getD i .null
    | _ => missing
  | _ => missing

/-! ## Functions -/

private def afterStart (pre s : String) : Option String := (Text.afterStart? pre.toList s.toList).map String.ofList

/-- Calls a method that was taken from a class, with the value that it belongs to in front. -/
private def callUnbound (m : Machine) (host : Host) (path : String) (a : Args) : Run Value := do
  let owner := (Classes.moduleOf? path).getD ""
  let id := Classes.shortName path
  let label := Classes.shortName owner
  match a.pos with
  | [] => Run.typeError ("unbound method " ++ label ++ "." ++ id ++ "() needs an argument")
  | self :: rest =>
    if ← self.isOf owner then callMethod m host self id ⟨rest, a.named⟩
    else Run.typeError ("descriptor '" ++ id ++ "' for '" ++ owner ++ "' objects doesn't apply to a '" ++
      (← self.kindName) ++ "' object")

/-- A range as templates may make it: not too long. -/
private def smallRange (m : Machine) (a : Args) : Run Value := do
  match a.named with
  | (k, _) :: _ => Run.typeError ("safe_range() got an unexpected keyword argument '" ++ k ++ "'")
  | [] => pure ()
  let v ← Making.ofClass m "range" a
  match ← Run.object? v with
  | some (.range x y s) =>
    if rangeSize x y s > 100000 then
      Run.overflowError "Range too big. The sandbox blocks ranges larger than MAX_RANGE (100000)."
    return v
  | _ => return v

/-- Calls a function that every program has. -/
def callNamed (m : Machine) (host : Host) (name : String) (a : Args) : Run Value := do
  match afterStart "method " name with
  | some path => callUnbound m host path a
  | none =>
    match name.splitOn "." with
    | "math" :: _ => Mathematics.call m (Classes.shortName name) a
    | "json" :: _ => Json.call m (Classes.shortName name) a
    | "re" :: _ => Patterns.call m (Classes.shortName name) a
    | "string" :: _ => Words.capitalizeWords a
    | "itertools" :: _ => Iteration.call m (Classes.shortName name) a
    | "collections" :: _ => Collections.make m (Classes.shortName name) a
    | "functools" :: _ => Functions.call m (String.ofList (name.toList.drop "functools.".length)) a
    | _ =>
      match name with
      | "element" =>
        match a.pos, a.named.lookup "tag" with
        | tag :: children, none => Markup.element tag children a.named
        | [], some tag => Markup.element tag [] (a.named.filter (·.1 != "tag"))
        | _ :: _, some _ => Run.typeError "element() got multiple values for argument 'tag'"
        | [], none => Run.typeError "element() missing 1 required positional argument: 'tag'"
      | "attrs" =>
        let given ← a.assigned "attributes" ["mapping"] []
        Markup.attributesOf ((given.lookup "mapping").getD .null)
      | "safe_range" => smallRange m a
      | "TemplateModule.__html__" | "TemplateModule.__str__" => Template.callExports name a
      | _ => Builtins.call m host name a

/-! ## Values -/

/-- Calls something that a template has made. -/
private def callOfTemplate? (m : Machine) (r : Addr) (o : Obj) (a : Args) : Option (Run Value) :=
  match o with
  | .macro' mac => some (Template.callMacro m mac mac.escapes a)
  | .component template context => some (Template.callComponent m template context a)
  | .loop l => some (Template.callLoop m l a)
  | .blockRef id page => some do
    let _ ← a.assignedOf "BlockReference.__call__" [] []
    Template.blockText m page id
  | .joiner separator used => some do
    let _ ← a.assignedOf "Joiner.__call__" [] []
    Run.save r (.joiner separator true)
    return if used then separator else .str ""
  | .fitting f place => some (Template.callFitting m place f a)
  | .undefined u => some (failUndefined u)
  | _ => none

/-- Calls a function of the host; some only promise their result. -/
private def callHost (host : Host) (name : String) (a : Args) : Run Value :=
  if host.isDeferred name then Run.new (.pendingCall name a.pos a.named false) else host.call name a

/-- Calls a value. -/
def callValue (m : Machine) (host : Host) (f : Value) (a : Args) : Run Value := do
  let refuse : Run Value := do Run.typeError ("'" ++ (← f.kindName) ++ "' object is not callable")
  match f with
  | .cls n => Making.ofClass m n a
  | .fn n => callNamed m host n a
  | .host n => callHost host n a
  | .ref r =>
    let o ← Run.load r
    match o with
    | .function c => Script.callFunction m c a
    | .method self g => m.call g ⟨self :: a.pos, a.named⟩
    | .builtinMethod self id => callMethod m host self id a
    | .cls info => Making.ofOwnClass m r info a
    | .partial' g before named => m.call g (Functions.withGiven before named a)
    | .cached .. => Functions.callCached m r a
    | _ => (callOfTemplate? m r o a).getD refuse
  | _ => refuse

end Stepwise
