import Stepwise.Library.Bytes
import Stepwise.Library.Errors
import Stepwise.Library.Mappings
import Stepwise.Library.Modules
import Stepwise.Library.Numbers
import Stepwise.Library.Sets
import Stepwise.Library.Texts
import Stepwise.Template.Environment
import Stepwise.Template.Loop
/-!
# Attributes

What a value has under a name: its fields, its methods, the members of its class. A method that
belongs to a value is an object of its own, which remembers the value.
-/

namespace Stepwise

namespace Attribute

/-! ## Methods by class -/

/-- Methods of the members of a class that every program has, those of the classes above left out. -/
def methodsOf : String → List String
  | "str" => Texts.methods
  | "markupsafe.Markup" => Texts.markupMethods
  | "bytes" => Bytes.methods
  | "int" => Numbers.intMethods
  | "float" => Numbers.floatMethods
  | "complex" => ["conjugate"]
  | "list" => Sequences.listMethods
  | "tuple" | "range" => Sequences.tupleMethods
  | "slice" => ["indices"]
  | "dict" => Mappings.methods
  | "jinx.context.ExecutionContext" => Mappings.ownMethods (.context [])
  | "collections.OrderedDict" => Mappings.ownMethods .ordered
  | "collections.Counter" => Mappings.ownMethods .counter
  | "set" => Sets.methods ++ Sets.changingMethods
  | "frozenset" => Sets.methods
  | "collections.deque" => Sequences.dequeMethods
  | "dict_keys" => Mappings.viewMethods .keys
  | "dict_items" => Mappings.viewMethods .items
  | "datetime.date" => Moments.dateMethods
  | "datetime.datetime" => Moments.datetimeMethods
  | "datetime.time" => Moments.timeMethods
  | "datetime.timedelta" => Moments.spanMethods
  | "datetime.timezone" => Moments.zoneMethods
  | "BaseException" => Errors.methods
  | "generator" | "coroutine" => ["close", "send", "throw"]
  | "re.Pattern" => Patterns.patternMethods
  | "re.Match" => Patterns.matchMethods
  | "string.Template" => Words.templateMethods
  | "functools._lru_cache_wrapper" => Functions.cachedMethods
  | "jinja2.runtime.LoopContext" => Loop.methods
  | "jinja2.utils.Cycler" => ["next", "reset"]
  | _ => []

/-- Methods that belong to a class rather than to its members. -/
def classMethodsOf (name : String) : List String :=
  match name with
  | "dict" => ["fromkeys"]
  | "int" => ["from_bytes"]
  | "float" | "bytes" => ["fromhex"]
  | "str" => ["maketrans"]
  | "jinx.context.ExecutionContext" => ["build"]
  | "itertools.chain" => ["from_iterable"]
  | n => Moments.classMethods n

/-- The nearest class of a line, itself first, for which something holds. -/
private def nearest? (name : String) (has : String → Bool) : Option String :=
  (Classes.lineage name).find? has

/-- The class from which members of a class have a method. -/
def methodOwner? (cls id : String) : Option String := nearest? cls fun c => (methodsOf c).contains id

/-- What a class that every program has holds under a name. -/
def ofClass? (cls id : String) : Run (Option Value) := do
  match nearest? cls fun c => (classMethodsOf c).contains id with
  | some _ => return some (← Run.new (.builtinMethod (.cls cls) id))
  | none =>
    match ← Moments.constant? cls id with
    | some v => return some v
    | none =>
      match methodOwner? cls id with
      | some owner => return some (.fn ("method " ++ owner ++ "." ++ id))
      | none =>
        if id == "mro" then return some (← Run.new (.builtinMethod (.cls cls) id))
        else return none

/-! ## Members of classes of scripts -/

/-- The nearest class above a class of a script that every program has. -/
def baseOf (cls : Addr) : Run String := do
  let line ← Value.lineage (.ref cls)
  return (line.findSome? fun c => match c with
    | .cls n => some n
    | _ => none).getD "object"

/-- The place of a field of records. -/
private def fieldPlace? (cls : Addr) (id : String) : Run (Option Nat) := do
  let line ← Value.lineage (.ref cls)
  let places ← line.mapM fun c => do
    match ← Run.object? c with
    | some (.cls info) => return info.fields.bind fun fs => fs.findIdx? (· == id)
    | _ => return none
  return places.findSome? fun i => i

/-- A member of a class as its instances have it: functions of scripts become methods. -/
private def bind (self member : Value) : Run Value := do
  match member with
  | .ref f =>
    match ← Run.load f with
    | .function _ | .cached .. => Run.new (.method self member)
    | _ => return member
  | .fn n => if (Text.afterStart? "method ".toList n.toList).isSome then Run.new (.method self member) else return member
  | _ => return member

/-- What an instance has from its class, if that is a class of a script. -/
private def ofOwnClass? (self : Value) (cls : Addr) (id : String) : Run (Option Value) := do
  match ← classMember? (.ref cls) id with
  | some member => return some (← bind self member)
  | none => return none

private def joinWays (ways : List (Run (Option Value))) : Run (Option Value) :=
  match ways with
  | [] => return none
  | w :: ws => do
    match ← w with
    | some v => return some v
    | none => joinWays ws

/-! ## Fields -/

/-- The fields of objects, methods aside. -/
private def fieldOf? (m : Machine) (v : Value) (a : Addr) (o : Obj) (id : String) : Run (Option Value) := do
  match o with
  | .dict (.context _) _ => if id == "output" then return some (← Context.tellOutput m a) else return none
  | .dict (.defaulting f) _ => return if id == "default_factory" then some f else none
  | .deque _ limit =>
    return if id == "maxlen" then some ((limit.map fun n => Value.int n).getD .null) else none
  | .range x y s =>
    match id with
    | "start" => return some (.int x)
    | "stop" => return some (.int y)
    | "step" => return some (.int s)
    | _ => return none
  | .slice x y s =>
    match id with
    | "start" => return some x
    | "stop" => return some y
    | "step" => return some s
    | _ => return none
  | .complex re im => return Numbers.complexField? re im id
  | .date _ | .datetime _ | .time .. | .span _ | .zone .. => Moments.field? o id
  | .error cls args fields =>
    let name ← match cls with
      | .cls n => pure n
      | .ref c => baseOf c
      | _ => pure "Exception"
    Errors.field? name args fields id
  | .partial' f args named =>
    match id with
    | "func" => return some f
    | "args" => return some (← Run.tuple args)
    | "keywords" => return some (← Run.dict (Dict.ofTexts named))
    | _ => return none
  | .comparable _ x => return if id == "obj" then some x else none
  | .pattern text flags => Patterns.patternField? text flags id
  | .match_ p subject groups names last start stop =>
    Patterns.matchField? p subject groups names last start stop id
  | .templateText s =>
    match id with
    | "template" => return some (.str s)
    | "delimiter" => return some (.str "$")
    | "idpattern" => return some (.str "(?a:[_a-z][_a-z0-9]*)")
    | "braceidpattern" => return some .null
    | "flags" => return some (.int 2)
    | _ => return none
  | .module n => return Modules.member? n id
  | .component template context =>
    match id with
    | "template" => return some (.ref template)
    | "context" => return some context
    | _ => return none
  | .template t =>
    match id with
    | "environment" => return some (.ref (← Template.environmentOf t.toolchain))
    | "name" => return some .null
    | "filename" => return some (.str "<template>")
    | _ => return none
  | .environment globals => return if id == "globals" then some (.ref globals) else none
  | .macro' mac =>
    match id with
    | "name" => return some ((mac.id.map Value.str).getD .null)
    | "arguments" => return some (← Run.tuple (mac.params.map Value.str))
    | "catch_kwargs" => return some (.bool mac.takesNamed)
    | "catch_varargs" => return some (.bool mac.takesRest)
    | "caller" => return some (.bool mac.takesCaller)
    | "explicit_caller" => return some (.bool (mac.params.contains "caller"))
    | _ => return none
  | .loop l => Loop.field? m a l id
  | .cycler items i =>
    match id with
    | "items" => return some (← Run.tuple items)
    | "pos" => return some (.int i)
    | "current" => return items[i]?
    | _ => return none
  | .joiner separator used =>
    match id with
    | "sep" => return some separator
    | "used" => return some (.bool used)
    | _ => return none
  | .blockRef block page =>
    match id with
    | "name" => return some (.str block)
    | "super" =>
      let strict := match ← Run.load page with
        | .page p => p.settings.strict
        | _ => false
      return some (← undefinedBecause strict ("there is no parent block called " ++ Text.quoted block ++ "."))
    | _ => return none
  | .namespaceObj members => return members.lookup id
  | .templateModule members _ => return members.lookup id
  | .undefined u => if u.lenience == .chainable then return some v else failUndefined u
  | _ => return none

/-- The fields of values that are no objects. -/
private def fieldOfSmall? (v : Value) (id : String) : Option Value :=
  match v with
  | .int n => Numbers.intField? n id
  | .bool b => Numbers.intField? (if b then 1 else 0) id
  | .float x => Numbers.floatField? x id
  | _ => none

/-- The method of a value with a name, by its class among those that every program has. -/
private def methodOf? (v : Value) (cls id : String) : Run (Option Value) := do
  match methodOwner? cls id with
  | none => return none
  | some _ =>
    -- methods of a class stay with the class
    match nearest? cls fun c => (classMethodsOf c).contains id with
    | some _ => return some (← Run.new (.builtinMethod (.cls cls) id))
    | none => return some (← Run.new (.builtinMethod v id))

end Attribute

open Attribute

/-- What a value has under a name. -/
def attribute? (m : Machine) (v : Value) (id : String) : Run (Option Value) := do
  match v with
  | .cls n => ofClass? n id
  | .ref a =>
    let o ← Run.load a
    match o with
    | .cls info =>
      match ← classMember? v id with
      | some x => return some x
      | none =>
        if (info.fields.getD []).contains id then return some .null
        ofClass? (← baseOf a) id
    | .instance c payload =>
      joinWays [ofOwnClass? v c id,
        match payload with
        | .null => pure none
        | .ref b => do
          joinWays [do fieldOf? m payload b (← Run.load b) id, do methodOf? payload (← baseOf c) id]
        | p => joinWays [pure (fieldOfSmall? p id), do methodOf? p (← baseOf c) id]]
    | .tuple (some c) xs =>
      match ← fieldPlace? c id with
      | some i => return xs[i]?
      | none => joinWays [ofOwnClass? v c id, methodOf? v "tuple" id]
    | .error (.ref c) _ _ =>
      joinWays [ofOwnClass? v c id, fieldOf? m v a o id, do methodOf? v (← baseOf c) id]
    | .dict (.derived c) _ =>
      joinWays [ofOwnClass? v c id, do methodOf? v (← baseOf c) id]
    | .dict (.context given) _ =>
      joinWays [fieldOf? m v a o id, pure (given.lookup id), methodOf? v "jinx.context.ExecutionContext" id]
    | _ =>
      joinWays [fieldOf? m v a o id,
        match Value.classOfObject o with
        | .cls n => methodOf? v n id
        | _ => pure none]
  | _ =>
    match fieldOfSmall? v id with
    | some x => return some x
    | none =>
      match ← Value.classOf v with
      | .cls n => methodOf? v n id
      | _ => return none

end Stepwise
