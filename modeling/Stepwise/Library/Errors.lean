import Stepwise.Engine.StepError
import Stepwise.Library.Arguments
/-!
# Errors as values

Errors of every class are made from their arguments here, and here is what scripts can read from
an error that they have caught.
-/

namespace Stepwise

/-! ## Making errors -/

/-- The class of a system error with a number. -/
def systemErrorClass : Int → String
  | 1 | 13 => "PermissionError"
  | 2 => "FileNotFoundError"
  | 3 => "ProcessLookupError"
  | 4 => "InterruptedError"
  | 10 => "ChildProcessError"
  | 11 | 114 | 115 => "BlockingIOError"
  | 17 => "FileExistsError"
  | 20 => "NotADirectoryError"
  | 21 => "IsADirectoryError"
  | 32 | 108 => "BrokenPipeError"
  | 103 => "ConnectionAbortedError"
  | 104 => "ConnectionResetError"
  | 110 => "TimeoutError"
  | 111 => "ConnectionRefusedError"
  | _ => "OSError"

/-- The files that a system error names behind its number and its text. -/
def namedFiles : List Value → List (String × Value)
  | [] => []
  | f :: more =>
    if f.isNull then []
    else ("filename", f) :: match more with
      | [_, g] => if g.isNull then [] else [("filename2", g)]
      | _ => []

/-- A system error of a class. The files that it names do not stay among its arguments. -/
def systemError (cls : String) (args : List Value) : Obj :=
  match args with
  | n :: m :: rest =>
    if 3 < rest.length then .error (.cls cls) args []
    else
      let files := namedFiles rest
      .error (.cls cls) (if files.isEmpty then args else [n, m]) ([("errno", n), ("strerror", m)] ++ files)
  | _ => .error (.cls cls) args []

/-- Makes an error of a class from arguments. -/
def makeError (cls : Value) (args : List Value) : Run Obj := do
  match cls with
  | .cls "OSError" =>
    match args with
    | .int k :: _ :: rest => return systemError (if 3 < rest.length then "OSError" else systemErrorClass k) args
    | _ => return systemError "OSError" args
  | .cls n =>
    if Classes.isBelow n "OSError" then return systemError n args
    else if n == Classes.stepExecutionError then
      match args with
      | s :: rest =>
        let e := rest.headD .null
        return .error cls [.str (stepErrorText (← s.plain) (← e.plain))]
          [("step_name", s), ("original_error", e)]
      | [] =>
        Run.typeError "StepExecutionError.__init__() missing 1 required positional argument: 'step_name'"
    else if n == Classes.scriptCompilationError then
      return .error cls (args.take 1) [("errors", (args.drop 1).headD .null)]
    else if n == Classes.toolchainError then
      return .error cls (args.take 1) [("original_error", (args.drop 1).headD .null)]
    else if n == "StopIteration" then
      return .error cls args [("value", args.headD .null)]
    else if n == "UnicodeDecodeError" || n == "UnicodeEncodeError" then
      if args.length ≠ 5 then
        Run.typeError ("function takes exactly 5 arguments (" ++ toString args.length ++ " given)")
      else return .error cls args []
    else if n == "UnicodeTranslateError" then
      if args.length ≠ 4 then
        Run.typeError ("function takes exactly 4 arguments (" ++ toString args.length ++ " given)")
      else return .error cls args []
    else return .error cls args []
  | _ => return .error cls args []

namespace Errors

/-- The arguments by name that a class of errors takes. -/
private def namesOf (name : String) : List String :=
  if Classes.isBelow name "ImportError" then ["name", "path"]
  else if Classes.isBelow name "NameError" then ["name"]
  else if name == "AttributeError" then ["name", "obj"]
  else []

/-- The parameters of an error class that names them. -/
private def parametersOf (name : String) : Option (List String × List (String × Value)) :=
  if name == "json.decoder.JSONDecodeError" then some (["msg", "doc", "pos"], [])
  else if name == "re.error" then some (["msg"], [("pattern", .null), ("pos", .null)])
  else none

/-- Calls a class of errors that every program has. -/
def make (name : String) (a : Args) : Run Value := do
  match parametersOf name with
  | some (required, optional) =>
    let given ← a.assigned (Classes.shortName name ++ ".__init__") required optional
    Run.new (.error (.cls name) [(given.lookup "msg").getD .null] given)
  | none =>
    let allowed := namesOf name
    match a.named.find? fun (k, _) => !allowed.contains k with
    | some (k, _) =>
      if allowed.isEmpty then Run.typeError (Classes.shortName name ++ "() takes no keyword arguments")
      else Run.typeError ("'" ++ k ++ "' is an invalid keyword argument for " ++ Classes.shortName name ++ "()")
    | none =>
      match ← makeError (.cls name) a.pos with
      | .error cls args fields => Run.new (.error cls args (fields ++ a.named))
      | o => Run.new o

/-! ## Reading errors -/

def methods : List String := ["add_note", "with_traceback"]

/-- Names of arguments that are read like fields. -/
private def argumentNames (name : String) : List String :=
  if Classes.isBelow name "UnicodeTranslateError" then ["object", "start", "end", "reason"]
  else if Classes.isBelow name "UnicodeError" && name != "UnicodeError" then
    ["encoding", "object", "start", "end", "reason"]
  else if Classes.isBelow name "SyntaxError" then ["msg"]
  else if Classes.isBelow name "jinja2.exceptions.TemplateError" then ["message"]
  else []

/-- Fields that an error of a class has even where nothing was said about them. -/
private def emptyFields (name : String) : List String :=
  if Classes.isBelow name "OSError" then ["errno", "strerror", "filename", "filename2"]
  else if Classes.isBelow name "ImportError" then ["name", "path"]
  else if Classes.isBelow name "NameError" then ["name"]
  else if Classes.isBelow name "AttributeError" then ["name", "obj"]
  else if Classes.isBelow name "SyntaxError" then
    ["filename", "lineno", "offset", "text", "end_lineno", "end_offset", "print_file_and_line"]
  else []

/-- The part of an error that is read like a field. `name` is the nearest class that every program has. -/
def field? (name : String) (args : List Value) (fields : List (String × Value)) (id : String) :
    Run (Option Value) := do
  if id == "args" then return some (← Run.tuple args)
  match fields.lookup id with
  | some v => return some v
  | none =>
    let only : Value := match args with
      | [v] => v
      | _ => .null
    match id with
    | "value" => return if Classes.isBelow name "StopIteration" then some (args.headD .null) else none
    | "code" =>
      if Classes.isBelow name "SystemExit" then
        match args with
        | [] | [_] => return some only
        | _ => return some (← Run.tuple args)
      else return none
    | "msg" => return if Classes.isBelow name "ImportError" then some only else (argument "msg")
    | _ => return (argument id).orElse fun _ => if (emptyFields name).contains id then some .null else none
where
  argument (id : String) : Option Value :=
    ((argumentNames name).findIdx? (· == id)).map fun i => args.getD i .null

/-- Calls a method of an error. -/
def call (self : Value) (id : String) (a : Args) : Run Value := do
  let v ← a.one ("BaseException." ++ id)
  match id, v with
  | "with_traceback", .null => return self
  | "with_traceback", _ => Run.typeError "__traceback__ must be a traceback or None"
  | _, .str _ => return .null
  | _, v => Run.typeError ("note must be a str, not '" ++ (← v.kindName) ++ "'")

end Errors

end Stepwise
