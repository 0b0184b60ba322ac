import Stepwise.Run.World
/-!
# The class of a value

Every value has a class, either one that every program has or an object of the store. The names
of classes stand in messages, so they are part of what a run answers.
-/

namespace Stepwise

open Value (same)

/-- The class of an object: the full name of a class that every program has, or the address of
a class of a script. -/
def Value.classOfObject : Obj → Value
  | .list _ => .cls "list"
  | .tuple none _ => .cls "tuple"
  | .tuple (some a) _ => .ref a
  | .dict f _ =>
    match f with
    | .plain => .cls "dict"
    | .context _ => .cls "jinx.context.ExecutionContext"
    | .ordered => .cls "collections.OrderedDict"
    | .defaulting _ => .cls "collections.defaultdict"
    | .counter => .cls "collections.Counter"
    | .derived a => .ref a
  | .set frozen _ => .cls (if frozen then "frozenset" else "set")
  | .deque .. => .cls "collections.deque"
  | .range .. => .cls "range"
  | .slice .. => .cls "slice"
  | .complex .. => .cls "complex"
  | .date _ => .cls "datetime.date"
  | .datetime _ => .cls "datetime.datetime"
  | .time .. => .cls "datetime.time"
  | .span _ => .cls "datetime.timedelta"
  | .zone .. => .cls "datetime.timezone"
  | .function _ => .cls "function"
  | .method .. => .cls "method"
  | .builtinMethod .. => .cls "builtin_function_or_method"
  | .cls _ => .cls "type"
  | .instance a _ => .ref a
  | .error c _ _ => c
  | .generator .. => .cls "generator"
  | .cursor label _ => .cls label
  | .grouping _ => .cls "itertools._grouper"
  | .tee .. => .cls "itertools._tee"
  | .view .keys _ => .cls "dict_keys"
  | .view .values _ => .cls "dict_values"
  | .view .items _ => .cls "dict_items"
  | .module _ => .cls "module"
  | .scope _ => .cls "dict"
  | .printer _ => .cls "jinx.script.LoggingPrintCollector"
  | .partial' .. => .cls "functools.partial"
  | .cached .. => .cls "functools._lru_cache_wrapper"
  | .comparable .. => .cls "functools.KeyWrapper"
  | .pattern .. => .cls "re.Pattern"
  | .match_ .. => .cls "re.Match"
  | .pendingCall .. => .cls "coroutine"
  | .templateText _ => .cls "string.Template"
  | .undefined u =>
    .cls (match u.lenience with
      | .strict => "jinja2.runtime.StrictUndefined"
      | .chainable => "jinja2.runtime.ChainableUndefined"
      | .plain => "jinja2.runtime.Undefined")
  | .macro' _ => .cls "jinja2.runtime.Macro"
  | .component .. => .cls "jinx.toolchain.TemplateComponent"
  | .template _ => .cls "jinja2.environment.Template"
  | .environment _ => .cls "jinja2.sandbox.SandboxedEnvironment"
  | .names _ => .cls "dict"
  | .page _ => .cls "jinja2.runtime.Context"
  | .loop _ => .cls "jinja2.runtime.LoopContext"
  | .cycler .. => .cls "jinja2.utils.Cycler"
  | .joiner .. => .cls "jinja2.utils.Joiner"
  | .namespaceObj _ => .cls "jinja2.utils.Namespace"
  | .selfRef _ => .cls "jinja2.runtime.TemplateReference"
  | .blockRef .. => .cls "jinja2.runtime.BlockReference"
  | .templateModule .. => .cls "jinja2.environment.TemplateModule"
  | .fitting .. => .cls "function"
  | .toolchain _ => .cls "jinx.toolchain.CompilerToolchain"

/-- Names of functions that are written in the same language as scripts, and not natively. -/
def isScriptedFunction (id : String) : Bool :=
  ["element", "attrs", "lipsum", "run_async", "safe_range", "generate_lorem_ipsum", "_safe_import", "delattr", "setattr", "_apply"].contains id
    || (["json.", "re.", "string.", "functools."].any fun m => m.isPrefixOf id) &&
      !(["functools.reduce", "functools.cmp_to_key"].contains id)

/-- The class of a value. -/
def Value.classOf (v : Value) : Run Value :=
  match v with
  | .null => return .cls "NoneType"
  | .bool _ => return .cls "bool"
  | .int _ => return .cls "int"
  | .float _ => return .cls "float"
  | .str _ => return .cls "str"
  | .markup _ => return .cls "markupsafe.Markup"
  | .bytes _ => return .cls "bytes"
  | .ellipsis => return .cls "ellipsis"
  | .notImplemented => return .cls "NotImplementedType"
  | .cls _ => return .cls "type"
  | .fn id => return .cls (if isScriptedFunction id then "function" else "builtin_function_or_method")
  | .host _ => return .cls "function"
  | .ref a => return Value.classOfObject (← Run.load a)

/-- The short name of a class. -/
def Value.classLabel (c : Value) : Run String := do
  match c with
  | .cls n => return Classes.shortName n
  | .ref a =>
    match ← Run.load a with
    | .cls info => return info.id
    | _ => return "object"
  | _ => return "object"

/-- The name of a value's class, as messages have it. -/
def Value.kindName (v : Value) : Run String := do Value.classLabel (← Value.classOf v)

/-- The classes above a class, itself first, each written once; nearest first. -/
def Value.lineageAt : Nat → Value → Run (List Value)
  | 0, _ => return []
  | fuel + 1, c => do
    match c with
    | .cls n => return (Classes.lineage n).map Value.cls
    | .ref a =>
      match ← Run.load a with
      | .cls info =>
        let above ← info.bases.mapM (Value.lineageAt fuel)
        -- later bases come before what they share with earlier ones
        let merged := above.flatten
        let kept := merged.reverse.foldl (fun acc x => if acc.any (same x) then acc else x :: acc) []
        return c :: kept.filter (fun x => !same x c)
      | _ => return [c]
    | _ => return []

def Value.lineage (c : Value) : Run (List Value) := Value.lineageAt 32 c

/-- Is the first class the second or below it? -/
def Value.isSubclass (c above : Value) : Run Bool := do
  match c, above with
  | .cls n, cls m => return n == m || Classes.isBelow n m
  | _, _ => return (← lineage c).any (same above)

/-- Does the value belong to a class that every program has? -/
def Value.isOf (v : Value) (cls : String) : Run Bool := do Value.isSubclass (← Value.classOf v) (.cls cls)

/-- Runs; an error that was raised is handled if it is an ordinary one, and others pass. -/
def Run.recoverOrdinary {α : Type} (act : Run α) (handle : Addr → Run α) : Run α :=
  Run.recover act fun e => do
    if ← Value.isSubclass (← Run.errorClass e) (.cls "Exception") then handle e else Run.raiseObject e

def Value.isErrorClass (c : Value) : Run Bool := Value.isSubclass c (.cls "BaseException")

/-- Is the object of the store a string-keyed or other dictionary? -/
def Value.dict? (v : Value) : Run (Option (Addr × DictFlavour × Dict)) :=
  match v with
  | .ref a => do
    match ← Run.load a with
    | .dict f d => return some (a, f, d)
    | _ => return none
  | _ => return none

/-- The members of a list. -/
def Value.list? (v : Value) : Run (Option (Addr × Array Value)) :=
  match v with
  | .ref a => do
    match ← Run.load a with
    | .list xs => return some (a, xs)
    | _ => return none
  | _ => return none

/-- The members of a tuple. -/
def Value.tuple? (v : Value) : Run (Option (List Value)) :=
  match v with
  | .ref a => do
    match ← Run.load a with
    | .tuple _ xs => return some xs
    | _ => return none
  | _ => return none

end Stepwise
