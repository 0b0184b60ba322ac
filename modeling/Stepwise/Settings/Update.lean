import Stepwise.Settings.Typed
/-!
# Changing settings

Settings are updated from a mapping, all at once or not at all: a value that does not fit its
setting leaves every setting as it was. The answers are summaries for the caller.
-/

namespace Stepwise

/-- Why a value does not fit. -/
def Setting.ofValue (k : Setting) (v : Value) : Run SettingValue := do
  match v.text? with
  | some s =>
    match k.ofText? s with
    | some x => return x
    | none => Run.valueError ("Not a boolean: " ++ (← v.display))
  | none =>
    if k.isSwitch then return .switch (← v.truthy) else return .text (← v.plain)

/-- Reads a file and then the variables of the process, and reports what does not fit. -/
def readConfiguration (c : Configuration) (path : String) (content : FileContent)
    (env : List (String × String)) : Run Configuration := do
  match content with
  | .bytes _ => Run.log .debug ("Loading environment from: " ++ path)
  | _ => pure ()
  match c.readFile path content with
  | .error f =>
    let b := match content with
      | .bytes b => b
      | _ => []
    Run.raiseWith "UnicodeDecodeError"
      [.str "utf-8", .bytes b, .int f.position, .int f.stop, .str f.reason]
  | .ok (c, warnings) =>
    warnings.forM (Run.log .warning)
    let (c, more) := c.readProcess env
    more.forM (Run.log .warning)
    return c

/-- The settings of the process; they are read when they are first asked for. -/
def configuration : Run Configuration := do
  match (← Run.world).configuration with
  | some c => return c
  | none =>
    let s := (← Run.world).surroundings
    let c ← readConfiguration {} s.filePath s.file s.processVariables
    Run.adjust fun w => { w with configuration := some c }
    return c

/-- Reads a file and the process again, over the settings in force. -/
def loadConfiguration (path : String) (content : FileContent) : Run Unit := do
  let c ← configuration
  let c ← readConfiguration c path content (← Run.world).surroundings.processVariables
  Run.adjust fun w => { w with configuration := some c }

def changeSettings (f : Settings → Settings) : Run Unit := do
  let c ← configuration
  Run.adjust fun w => { w with configuration := some { c with settings := f c.settings } }

/-- A summary for the caller. -/
def summary (l : List (String × Value)) : Run Value := Run.dict (Dict.ofTexts l)

/-- The setting that a key of a mapping names. -/
def Setting.ofKey? (key : Value) : Option Setting := key.text? >>= Setting.ofId?

/-- What is said of a value that does not fit. -/
def refusalOf (k : Setting) (reason shown : String) : List (String × Value) :=
  [("success", .bool false), ("error", .str reason), ("message", .str ("Invalid value for " ++ k.id ++ ": " ++ shown))]

/-- The summary of a value that does not fit its setting; an error of another kind is raised again. -/
def refusal (k : Setting) (v : Value) (error : Addr) : Run Value := do
  let c ← Run.errorClass error
  if (← Value.isSubclass c (.cls "TypeError")) || (← Value.isSubclass c (.cls "ValueError")) then
    let reason ← errorMessage error
    summary (refusalOf k reason (← v.display))
  else Run.raiseObject error

/-- The settings that a mapping changes and the names it holds that are no settings, or the
summary of the first value that does not fit. -/
def convertAll : List (Value × Value) → OrderedMap String (Setting × SettingValue) →
    List Value → Run (Except Value (OrderedMap String (Setting × SettingValue) × List Value))
  | [], done, unknown => return .ok (done, unknown.reverse)
  | (key, v) :: rest, done, unknown => do
    match Setting.ofKey? key with
    | none =>
      let _ ← key.key
      convertAll rest done (key :: unknown)
    | some k =>
      match ← Run.outcome (k.ofValue v) with
      | .ok x => convertAll rest (done.insert k.id (k, x)) unknown
      | .error e => return .error (← refusal k v e)

/-- The text of a value that is joined with others: only texts are. -/
def joined (v : Value) (place : Nat) : Run String := do
  match v.text? with
  | some s => return s
  | none =>
    Run.typeError ("sequence item " ++ toString place ++ ": expected str instance, " ++ (← v.kindName) ++ " found")

/-- What is said of changed settings, and of names that are those of no settings. -/
def changeOf (changed : List String) (names : Value) (unknown : List String) : List (String × Value) :=
  [("success", .bool unknown.isEmpty), ("updated_settings", names),
    ("message", .str ("Updated " ++ toString changed.length ++ " settings successfully"))] ++
  if unknown.isEmpty then [] else [("error", .str ("Unknown settings: " ++ comma unknown))]

/-- The summary of changed settings. The names of those that there are not must be texts to be listed. -/
def changeSummary (changed : List String) (unknown : List Value) : Run Value := do
  let names ← Run.list (changed.map .str)
  let texts ← unknown.zipIdx.mapM fun p => joined p.1 p.2
  summary (changeOf changed names texts)

/-- Updates the settings of the process. -/
def updateSettings (updates : List (Value × Value)) : Run Value := do
  match ← convertAll updates OrderedMap.empty [] with
  | .error s => return s
  | .ok (done, unknown) =>
    changeSettings fun s => done.values.foldl (fun s (k, v) => s.set k v) s
    changeSummary done.keys unknown

/-- Gives a setting its default back. -/
def resetSetting (name : String) : Run Value := do
  match Setting.ofId? name with
  | none => summary [("success", .bool false), ("error", .str ("Unknown setting: " ++ name))]
  | some k =>
    changeSettings fun s => s.set k k.default
    summary [("success", .bool true),
      ("message", .str ("Reset " ++ name ++ " to default value: " ++ (← k.default.toValue.plain)))]

/-- All settings with what is known about them. -/
def allConfiguration : Run Value := do
  let c ← configuration
  let current ← summary (Setting.all.map fun k => (k.id, (c.settings.get k).toValue))
  let defaults ← Setting.all.mapM fun k => do
    return (k.id, ← summary [("default_value", k.default.toValue), ("type", .str k.kindName)])
  let mapping ← summary (Setting.all.map fun k => (k.variableName, .str k.id))
  summary [("settings", current), ("default_settings", ← summary defaults),
    ("env_mapping", mapping), ("env_file", match c.file with | some f => .str f | none => .null)]

end Stepwise
