import Stepwise.Value.Kind
/-!
# Names at run time

Where a name is found when a script uses it: in its own scope, in the functions around it, among
the names of the whole script, or among those that every script knows.
-/

namespace Stepwise.Script

/-! ## Names that every script knows -/

private def knownClasses : List String :=
  ["bool", "bytes", "complex", "dict", "enumerate", "filter", "float", "frozenset", "int", "list", "map", "range",
   "reversed", "set", "slice", "str"]

private def knownErrors : List String :=
  ["ArithmeticError", "AssertionError", "AttributeError", "BaseException", "BufferError", "BytesWarning",
   "DeprecationWarning", "EOFError", "Exception", "FloatingPointError", "FutureWarning", "GeneratorExit",
   "ImportError", "ImportWarning", "IndentationError", "IndexError", "KeyError", "KeyboardInterrupt",
   "LookupError", "MemoryError", "NameError", "NotImplementedError", "OSError", "OverflowError",
   "PendingDeprecationWarning", "ReferenceError", "RuntimeError", "RuntimeWarning", "StopIteration",
   "SyntaxError", "SyntaxWarning", "SystemError", "SystemExit", "TabError", "TypeError", "UnboundLocalError",
   "UnicodeDecodeError", "UnicodeEncodeError", "UnicodeError", "UnicodeTranslateError", "UnicodeWarning",
   "UserWarning", "ValueError", "Warning", "ZeroDivisionError"]

private def knownFunctions : List String :=
  ["abs", "all", "any", "callable", "chr", "delattr", "divmod", "hash", "hex", "id", "isinstance", "issubclass",
   "len", "max", "min", "oct", "ord", "pow", "repr", "round", "setattr", "sum"]

/-- What a name means that no scope gives a meaning to. -/
def known? (id : String) : Option Value :=
  if knownFunctions.contains id then some (.fn id)
  else if knownClasses.contains id || knownErrors.contains id then some (.cls id)
  else if id == "EnvironmentError" || id == "IOError" then some (.cls "OSError")
  else none

/-! ## Scopes -/

def notDefined {α : Type} (id : String) : Run α :=
  Run.raiseWith "NameError" [.str ("name '" ++ id ++ "' is not defined")] [("name", .str id)]

private def withoutValue {α : Type} (id : String) : Run α :=
  Run.raiseWith "UnboundLocalError"
    [.str ("cannot access local variable '" ++ id ++ "' where it is not associated with a value")]
    [("name", .str id)]

private def withoutFreeValue {α : Type} (id : String) : Run α :=
  Run.raiseWith "NameError"
    [.str ("cannot access free variable '" ++ id ++
      "' where it is not associated with a value in enclosing scope")] [("name", .str id)]

/-- Walks from a scope outwards until a step has an answer. -/
def outwards {α : Type} (start : Addr) (step : Addr → Scope → Run (Addr ⊕ α)) : Run α :=
  Run.iterate (fun a => do
    match ← Run.load a with
    | .scope s => step a s
    | _ => Run.exhausted) Run.patience start

/-- The scope of the whole script. -/
def outermost (scope : Addr) : Run Addr :=
  outwards scope fun a s => return match s.parent with
    | some p => .inl p
    | none => .inr a

def fromOutermost (scope : Addr) (id : String) : Run Value := do
  match ← Run.load (← outermost scope) with
  | .scope s =>
    match (s.vars.lookup id).orElse fun _ => known? id with
    | some v => return v
    | none => notDefined id
  | _ => notDefined id

/-- The value of a name in the functions around a scope. -/
def fromAround (start : Option Addr) (id : String) : Run Value := do
  match start with
  | none => notDefined id
  | some start =>
    outwards start fun a s => do
      let further : Run (Addr ⊕ Value) := do
        match s.parent with
        | some p => return .inl p
        | none => return .inr (← fromOutermost a id)
      if s.kind = .cls || s.kind = .module then further
      else if s.globals.contains id then return .inr (← fromOutermost a id)
      else if s.bound.contains id then
        match s.vars.lookup id with
        | some v => return .inr v
        | none => withoutFreeValue id
      else further

/-- The value of a name. -/
def lookup (scope : Addr) (id : String) : Run Value := do
  match ← Run.load scope with
  | .scope s =>
    if s.kind = .module || s.globals.contains id then fromOutermost scope id
    else if s.bound.contains id then
      match s.vars.lookup id with
      | some v => return v
      | none => if s.kind = .cls then fromOutermost scope id else withoutValue id
    else fromAround s.parent id
  | _ => notDefined id

/-- The scope to which a name belongs when something in this scope gives it a value: a loop in
brackets keeps only the names of its own loops. -/
def ownerOf (scope : Addr) (id : String) : Run Addr :=
  outwards scope fun a s => do
    match s.kind, s.parent with
    | .comprehension, some p => return if s.bound.contains id then .inr a else .inl p
    | _, _ => return .inr (← if s.globals.contains id then outermost a else pure a)

def withVars (f : List (String × Value) → List (String × Value)) (o : Obj) : Obj :=
  match o with
  | .scope s => .scope { s with vars := f s.vars }
  | o => o

def put (id : String) (v : Value) : List (String × Value) → List (String × Value)
  | [] => [(id, v)]
  | (k, x) :: rest => if k = id then (id, v) :: rest else (k, x) :: put id v rest

/-- Gives a name a value. -/
def bind (scope : Addr) (id : String) (v : Value) : Run Unit := do
  Run.update (← ownerOf scope id) (withVars (put id v))

/-- Takes the value of a name away, if it has one. -/
def unbind (scope : Addr) (id : String) : Run Unit := do
  Run.update (← ownerOf scope id) (withVars fun vs => vs.filter (·.1 ≠ id))

/-- Takes the value of a name away. -/
def delete (scope : Addr) (id : String) : Run Unit := do
  let owner ← ownerOf scope id
  match ← Run.load owner with
  | .scope s =>
    if (s.vars.lookup id).isSome then unbind scope id
    else if s.kind = .cls || s.kind = .module then notDefined id
    else withoutValue id
  | _ => notDefined id

/-- Where the function around a scope collects what it prints. -/
def printerOf (scope : Addr) : Run (Option Addr) :=
  outwards scope fun _ s => return match s.printer, s.parent with
    | some p, _ => .inr (some p)
    | none, some p => .inl p
    | none, none => .inr none

/-- The dotted path of something that is defined in a scope. -/
def pathIn (scope : Addr) (id : String) : Run String := do
  match ← Run.load scope with
  | .scope s =>
    if s.globals.contains id then return id
    match s.kind with
    | .module => return id
    | .cls => return s.path ++ "." ++ id
    | _ => return s.path ++ ".<locals>." ++ id
  | _ => return id

end Stepwise.Script
