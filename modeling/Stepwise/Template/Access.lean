import Stepwise.Library.Attribute
import Stepwise.Template.Scope
/-!
# What templates may see

A template reads attributes and items of the values that it is given. Where one is missing the other is
tried, and where both are missing the value is undefined. What begins with an underscore is hidden.
-/

namespace Stepwise.Template

/-! ## Hidden attributes -/

private def ofEveryObject : List String :=
  ["class", "delattr", "dir", "doc", "eq", "format", "ge", "getattribute", "getstate", "gt", "hash", "init",
   "init_subclass", "le", "lt", "ne", "new", "reduce", "reduce_ex", "repr", "setattr", "sizeof", "str",
   "subclasshook"]

private def ofNumbers : List String :=
  ["abs", "add", "bool", "ceil", "divmod", "float", "floor", "floordiv", "getnewargs", "int", "mod", "mul", "neg",
   "pos", "pow", "radd", "rdivmod", "rfloordiv", "rmod", "rmul", "round", "rpow", "rsub", "rtruediv", "sub",
   "truediv", "trunc"]

private def ofWritten : List String := ["dict", "module", "weakref"]

private def ofFunctions : List String :=
  ["annotations", "builtins", "call", "closure", "code", "defaults", "dict", "get", "globals", "kwdefaults",
   "module", "name", "qualname"]

/-- Attributes between double underscores that members of a class have besides those of every object. -/
private def ofMembers : String → List String
  | "str" => ["add", "contains", "getitem", "getnewargs", "iter", "len", "mod", "mul", "rmod", "rmul"]
  | "markupsafe.Markup" => ["html", "html_format", "module", "radd", "slots"]
  | "bytes" => ["add", "bytes", "contains", "getitem", "getnewargs", "iter", "len", "mod", "mul", "rmod", "rmul"]
  | "int" =>
    ofNumbers ++ ["and", "index", "invert", "lshift", "or", "rand", "rlshift", "ror", "rrshift", "rshift", "rxor", "xor"]
  | "float" => ofNumbers ++ ["getformat"]
  | "complex" => ofNumbers ++ ["complex"]
  | "NoneType" => ["bool"]
  | "list" =>
    ["add", "class_getitem", "contains", "delitem", "getitem", "iadd", "imul", "iter", "len", "mul", "reversed",
     "rmul", "setitem"]
  | "tuple" => ["add", "class_getitem", "contains", "getitem", "getnewargs", "iter", "len", "mul", "rmul"]
  | "dict" =>
    ["class_getitem", "contains", "delitem", "getitem", "ior", "iter", "len", "or", "reversed", "ror", "setitem"]
  | "set" | "frozenset" =>
    ["and", "class_getitem", "contains", "iter", "len", "or", "rand", "ror", "rsub", "rxor", "sub", "xor"]
  | "range" => ["bool", "contains", "getitem", "iter", "len", "reversed"]
  | "function" => ofFunctions
  | "builtin_function_or_method" => ["call", "module", "name", "qualname", "self", "text_signature"]
  | "method" => ["call", "func", "get", "self"]
  | "type" =>
    ["annotations", "base", "bases", "basicsize", "call", "dict", "dictoffset", "flags", "instancecheck", "itemsize",
     "module", "mro", "name", "or", "prepare", "qualname", "ror", "subclasscheck", "subclasses",
     "text_signature", "weakrefoffset"]
  | "generator" => ["del", "iter", "name", "next", "qualname"]
  | "jinx.context.ExecutionContext" => ofWritten
  | "jinx.toolchain.TemplateComponent" | "jinja2.runtime.Macro" => ofWritten ++ ["call"]
  | "jinja2.runtime.LoopContext" => ofWritten ++ ["call", "iter", "len", "next"]
  | "jinja2.utils.Cycler" => ofWritten ++ ["next"]
  | "jinja2.utils.Joiner" => ofWritten ++ ["call"]
  | "jinja2.runtime.TemplateReference" => ofWritten ++ ["getitem"]
  | "jinja2.runtime.BlockReference" => ofWritten ++ ["call"]
  | "jinja2.runtime.Undefined" =>
    ["add", "bool", "call", "complex", "div", "float", "floordiv", "getattr", "getitem", "int", "iter", "len",
     "mod", "module", "mul", "neg", "pos", "pow", "radd", "rdiv", "rfloordiv", "rmod", "rmul", "rpow", "rsub",
     "rtruediv", "slots", "sub", "truediv"]
  | "jinja2.runtime.ChainableUndefined" => ["html"]
  | "jinja2.runtime.StrictUndefined" => ["contains"]
  | _ => []

/-- The name between double underscores. -/
private def inner? (id : String) : Option String :=
  let cs := id.toList
  if cs.length > 4 && cs.take 2 == ['_', '_'] && cs.reverse.take 2 == ['_', '_'] then
    some (String.ofList ((cs.drop 2).take (cs.length - 4)))
  else none

/-- Does a value have a hidden attribute of this name? -/
private def hasHidden (m : Machine) (v : Value) (id : String) : Run Bool := do
  match ← Run.object? v with
  | some (.namespaceObj members) => return id == "__class__" || (members.lookup id).isSome
  | _ =>
    match inner? id with
    | some n =>
      let line ← Value.lineage (← Value.classOf v)
      let all := line.flatMap fun c => match c with
        | .cls k => ofMembers k
        | _ => ofWritten
      return ofEveryObject.contains n || all.contains n
    | none => return (← attribute? m v id).isSome

/-! ## Attributes -/

/-- A method that puts values into a text becomes one that sees only what templates may see. -/
private def guarded (place : Place) (v : Value) : Run Value := do
  match ← Run.object? v with
  | some (.builtinMethod self id) =>
    if (id == "format" || id == "format_map") && (← self.payload).text?.isSome then
      Run.new (.fitting (.format self (id == "format_map")) place)
    else return v
  | _ => return v

private def isClass (v : Value) : Run Bool := do
  match v with
  | .cls _ => return true
  | _ =>
    match ← Run.object? v with
    | some (.cls _) => return true
    | _ => return false

/-- What a value has as an attribute, hidden or not. -/
private def ownAttribute? (m : Machine) (place : Place) (v : Value) (id : String) : Run (Option Value) := do
  if id.startsWith "_" then
    if ← hasHidden m v id then return some (← place.hidden v id) else return none
  match ← attribute? m v id with
  | none => return none
  | some x =>
    if id == "mro" && (← isClass v) then return some (← place.hidden v id)
    else return some (← guarded place x)

/-- The item of a value, unless it is missing or the value has none. -/
def ownItem? (m : Machine) (v i : Value) : Run (Option Value) := do
  match ← Run.outcome (getItem m v i) with
  | .ok x => return some x
  | .error e =>
    let c ← Run.errorClass e
    if (← Value.isSubclass c (.cls "TypeError")) || (← Value.isSubclass c (.cls "LookupError")) then return none
    else Run.raiseObject e

/-- `v.id`: an attribute, or else an item. -/
def attributeOf (m : Machine) (place : Place) (v : Value) (id : String) : Run Value := do
  match ← ownAttribute? m place v id with
  | some x => return x
  | none =>
    match ← ownItem? m v (.str id) with
    | some x => return x
    | none => place.missing (some v) (.str id)

/-- `v[i]`: an item, or else an attribute. -/
def itemOf (m : Machine) (place : Place) (v i : Value) : Run Value := do
  match ← ownItem? m v i with
  | some x => return x
  | none =>
    match i.text? with
    | some id =>
      match ← ownAttribute? m place v id with
      | some x => return x
      | none => place.missing (some v) i
    | none => place.missing (some v) i

/-- Only the attribute, never an item: what a value has besides its items. -/
def attributeOnly (m : Machine) (place : Place) (v : Value) (id : String) : Run Value := do
  match ← ownAttribute? m place v id with
  | some x => return x
  | none => place.missing (some v) (.str id)

/-! ## Paths -/

/-- The steps of a path: names between points, and whole numbers among them. -/
def pathOf (v : Value) : Run (List Value) := do
  match v with
  | .null => return []
  | .str s | .markup s =>
    (Text.splitOn ['.'] none s.toList).mapM fun part => do
      if !part.isEmpty && part.all Text.isDigitLike then
        return .int (← intOfText 10 part (Text.quoted (String.ofList part)))
      else return .str (String.ofList part)
  | v => return [v]

/-- Follows a path from a value; where a step is missing, the default stands for it. -/
def follow (m : Machine) (place : Place) (path : List Value) (default : Option Value) (v : Value) : Run Value :=
  path.foldlM (fun v step => do
    let x ← itemOf m place v step
    match default with
    | some d => if ← isUndefined x then return d else return x
    | none => return x) v

/-- A text without regard to case, and any other value itself. -/
def withoutCase (v : Value) : Value :=
  match v with
  | .str s => .str (Text.lower s)
  | .markup s => .markup (Text.lower s)
  | v => v

end Stepwise.Template
