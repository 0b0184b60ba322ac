import Stepwise.Settings.Engine
import Stepwise.Value.Compare
import Stepwise.Text.Utf8
/-!
# Checked settings

What engines read is a snapshot of the settings in which every field has been checked: the names
of engines and of the component macro are not empty, and switches are truth values.
-/

namespace Stepwise

/-- What is wrong with a field. -/
inductive FieldFault where
  | notText | tooShort | notSwitch | badSwitch | notUnicode
  deriving DecidableEq

def FieldFault.code : FieldFault → String
  | notText => "string_type"
  | tooShort => "string_too_short"
  | notSwitch => "bool_type"
  | badSwitch => "bool_parsing"
  | notUnicode => "string_unicode"

namespace EngineSettings

/-- A text of at least so many characters. -/
def checkText (least : Nat) (v : Value) : Except FieldFault String :=
  let check (s : String) : Except FieldFault String :=
    if s.length < least then .error .tooShort else .ok s
  match v with
  | .str s | .markup s => check s
  | .bytes b =>
    match Text.decodeUtf8 b with
    | .ok cs => check (String.ofList cs)
    | .error _ => .error .notUnicode
  | _ => .error .notText

private def switchOfWord (s : String) : Except FieldFault Bool :=
  let w := String.ofList (s.toList.map Char.toLower)
  if ["0", "off", "f", "false", "n", "no"].contains w then .ok false
  else if ["1", "on", "t", "true", "y", "yes"].contains w then .ok true
  else .error .badSwitch

/-- A truth value, also as a word or as the number 0 or 1. -/
def checkSwitch (v : Value) : Except FieldFault Bool :=
  match v with
  | .bool b => .ok b
  | .str s | .markup s => switchOfWord s
  | .bytes b =>
    match Text.decodeUtf8 b with
    | .ok cs => switchOfWord (String.ofList cs)
    | .error _ => .error .badSwitch
  | .int n => if n = 0 then .ok false else if n = 1 then .ok true else .error .badSwitch
  | .float x =>
    match Number.wholeValue? x with
    | some n => if n = 0 then .ok false else if n = 1 then .ok true else .error .badSwitch
    | none => .error .notSwitch
  | _ => .error .notSwitch

/-- A text or nothing. -/
def checkOptional (v : Value) : Except FieldFault (Option String) :=
  match v with
  | .null => .ok none
  | v => (checkText 0 v).map some

/-- A field and what is wrong with it; a field that is not given has its default. -/
def field {α : Type} (given : String → Option Value) (name : String) (default : α)
    (f : Value → Except FieldFault α) : α × List (String × FieldFault) :=
  match given name with
  | none => (default, [])
  | some v => match f v with
    | .ok x => (x, [])
    | .error e => (default, [(name, e)])

/-- Checks all fields. All faults are reported, in the order of the fields. -/
def check (given : String → Option Value) : Except (List (String × FieldFault)) EngineSettings :=
  let (renderEngine, e1) := field given "render_engine" "jinja" (checkText 1)
  let (scriptEngine, e2) := field given "script_engine" "python" (checkText 1)
  let (componentName, e3) := field given "render_component_name" "component" (checkText 1)
  let (autoescape, e4) := field given "render_autoescape" true checkSwitch
  let (strictUndefined, e5) := field given "render_strict_undefined" false checkSwitch
  let (runInThread, e6) := field given "script_run_in_thread" true checkSwitch
  let (logLevel, e7) := field given "log_level" "INFO" (checkText 0)
  let (envFile, e8) := field given "env_file" none checkOptional
  let faults := e1 ++ e2 ++ e3 ++ e4 ++ e5 ++ e6 ++ e7 ++ e8
  if faults.isEmpty then
    .ok { renderEngine, scriptEngine, componentName, autoescape, strictUndefined, runInThread,
          logLevel, envFile }
  else .error faults

def faultClass : String := "pydantic_core._pydantic_core.ValidationError"

/-- Checks, and raises an error that lists the faults. -/
def make (given : String → Option Value) : Run EngineSettings := do
  match check given with
  | .ok s => return s
  | .error faults =>
    let details ← faults.mapM fun fault => Run.list [.str fault.1, .str fault.2.code]
    let all ← Run.list details
    Run.raiseWith faultClass [] [("details", all)]

/-- The settings of a mapping by name. -/
def ofDict (d : Dict) : Run EngineSettings := make d.getText?

/-- The fields in order. -/
def fields (s : EngineSettings) : List (String × Value) :=
  [("render_engine", .str s.renderEngine), ("script_engine", .str s.scriptEngine),
    ("render_component_name", .str s.componentName), ("render_autoescape", .bool s.autoescape),
    ("render_strict_undefined", .bool s.strictUndefined),
    ("script_run_in_thread", .bool s.runInThread), ("log_level", .str s.logLevel),
    ("env_file", match s.envFile with | some f => .str f | none => .null)]

end EngineSettings

/-- The value of a setting. -/
def SettingValue.toValue : SettingValue → Value
  | .text s => .str s
  | .switch b => .bool b

namespace Configuration

/-- The fields of a snapshot: the settings by name, and where they were last read from. -/
def given (c : Configuration) (name : String) : Option Value :=
  if name == "env_file" then some (match c.file with | some f => .str f | none => .null)
  else (Setting.ofId? name).map fun k => (c.settings.get k).toValue

/-- The checked snapshot of the settings in force. -/
def engineSettings (c : Configuration) : Run EngineSettings := EngineSettings.make c.given

end Configuration

end Stepwise
