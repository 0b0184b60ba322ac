import Stepwise.Data.OrderedMap
import Stepwise.Text.Case
import Stepwise.Text.Cut
/-!
# Settings

Seven settings, each a text or a switch. A setting has a name, a variable that overrides it, and
a default; the values of all settings are one record that is read and written by setting.
-/

namespace Stepwise

inductive SettingValue where
  | text (s : String)
  | switch (on : Bool)
  deriving DecidableEq, Inhabited

/-- The settings in the order of their declaration. -/
inductive Setting where
  | renderEngine | scriptEngine | componentName | autoescape | strictUndefined | runInThread
  | logLevel
  deriving DecidableEq, Inhabited

namespace Setting

def all : List Setting :=
  [renderEngine, scriptEngine, componentName, autoescape, strictUndefined, runInThread, logLevel]

def id : Setting → String
  | renderEngine => "render_engine"
  | scriptEngine => "script_engine"
  | componentName => "render_component_name"
  | autoescape => "render_autoescape"
  | strictUndefined => "render_strict_undefined"
  | runInThread => "script_run_in_thread"
  | logLevel => "log_level"

def isSwitch : Setting → Bool
  | autoescape | strictUndefined | runInThread => true
  | _ => false

/-- The name of the kind of value that a setting takes. -/
def kindName (s : Setting) : String := if s.isSwitch then "bool" else "str"

def variableStart : String := "JINX_"

/-- The environment variable that overrides a setting. -/
def variableName (s : Setting) : String := variableStart ++ Text.upper s.id

def default : Setting → SettingValue
  | renderEngine => .text "jinja"
  | scriptEngine => .text "python"
  | componentName => .text "component"
  | autoescape => .switch true
  | strictUndefined => .switch false
  | runInThread => .switch true
  | logLevel => .text "INFO"

def ofId? (name : String) : Option Setting := all.find? (·.id == name)
def ofVariable? (name : String) : Option Setting := all.find? (·.variableName == name)

end Setting

/-- A value for every setting. -/
structure Settings where
  renderEngine : SettingValue := Setting.default .renderEngine
  scriptEngine : SettingValue := Setting.default .scriptEngine
  componentName : SettingValue := Setting.default .componentName
  autoescape : SettingValue := Setting.default .autoescape
  strictUndefined : SettingValue := Setting.default .strictUndefined
  runInThread : SettingValue := Setting.default .runInThread
  logLevel : SettingValue := Setting.default .logLevel
  deriving DecidableEq, Inhabited

namespace Settings

def get (s : Settings) : Setting → SettingValue
  | .renderEngine => s.renderEngine
  | .scriptEngine => s.scriptEngine
  | .componentName => s.componentName
  | .autoescape => s.autoescape
  | .strictUndefined => s.strictUndefined
  | .runInThread => s.runInThread
  | .logLevel => s.logLevel

def set (s : Settings) (k : Setting) (v : SettingValue) : Settings :=
  match k with
  | .renderEngine => { s with renderEngine := v }
  | .scriptEngine => { s with scriptEngine := v }
  | .componentName => { s with componentName := v }
  | .autoescape => { s with autoescape := v }
  | .strictUndefined => { s with strictUndefined := v }
  | .runInThread => { s with runInThread := v }
  | .logLevel => { s with logLevel := v }

/-- A written setting has the written value, and the others are as before. -/
@[simp] theorem get_set (s : Settings) (k k' : Setting) (v : SettingValue) :
    (s.set k v).get k' = if k' = k then v else s.get k' := by
  cases k <;> cases k' <;> simp [get, set]

end Settings

/-- A switch written as a word, if the word says on or off. -/
def switchOfText? (s : String) : Option Bool :=
  let w := Text.lower (Text.trimBlank s)
  if ["true", "1", "yes", "on"].contains w then some true
  else if ["false", "0", "no", "off", ""].contains w then some false
  else none

/-- The value that a text stands for in a setting, if it stands for one. -/
def Setting.ofText? (k : Setting) (s : String) : Option SettingValue :=
  if k.isSwitch then (switchOfText? s).map .switch else some (.text (Text.trimBlank s))

end Stepwise
