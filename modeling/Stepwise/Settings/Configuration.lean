import Stepwise.Settings.Basic
import Stepwise.Text.Quoted
import Stepwise.Text.Utf8
/-!
# Configuration

The settings in force and where they came from: first the defaults, then the variables of a
file, then the variables of the process. A variable whose text does not fit its setting is
reported and changes nothing.
-/

namespace Stepwise

structure Configuration where
  settings : Settings := {}
  /-- All variables that were read, whether or not they name a setting. -/
  recorded : OrderedMap String String := OrderedMap.empty
  /-- The path of the last file that was read. -/
  file : Option String := none
  deriving Inhabited

/-- What lies at a path. -/
inductive FileContent where
  | absent
  | directory
  | bytes (b : List UInt8)
  deriving Inhabited

namespace Configuration

/-- Applies one variable to the setting it names; also says what is wrong with its text. -/
def applyVariable (c : Configuration) (name text : String) : Configuration × List String :=
  match Setting.ofVariable? name with
  | none => (c, [])
  | some k =>
    match k.ofText? text with
    | some v => ({ c with settings := c.settings.set k v }, [])
    | none =>
      (c, ["Ignoring " ++ name ++ "=" ++ Text.quoted text ++ ": expected " ++ k.kindName])

/-- Records a variable and applies it. -/
def takeVariable (c : Configuration) (name text : String) : Configuration × List String :=
  applyVariable { c with recorded := c.recorded.insert name text } name text

def takeVariables (c : Configuration) (l : List (String × String)) :
    Configuration × List String :=
  l.foldl (fun (c, w) (k, v) => let (c', w') := c.takeVariable k v; (c', w ++ w')) (c, [])

/-- Removes a pair of equal quotes around a text. -/
def unquote (s : List Char) : List Char :=
  let around (q : Char) : Bool := Text.startsWith [q] s && Text.endsWith [q] s
  if around '"' || around '\'' then (s.drop 1).dropLast else s

/-- The variable that a line of a file sets: `name=value`, unless it is blank or a comment. -/
def variableOfLine? (line : List Char) : Option (String × String) :=
  let l := Text.trim Text.isBlank line
  match l with
  | [] => none
  | '#' :: _ => none
  | _ =>
    match Text.cutFirst ['='] l with
    | none => none
    | some (k, v) =>
      some (String.ofList (Text.trim Text.isBlank k),
        String.ofList (unquote (Text.trim Text.isBlank v)))

/-- Line ends of every kind become line feeds. -/
def unifyLineEnds : List Char → List Char
  | '\r' :: '\n' :: r => '\n' :: unifyLineEnds r
  | '\r' :: r => '\n' :: unifyLineEnds r
  | c :: r => c :: unifyLineEnds r
  | [] => []

/-- The variables that a file sets, in order. -/
def variablesOfText (text : List Char) : List (String × String) :=
  (Text.splitChars '\n' (unifyLineEnds text)).filterMap variableOfLine?

/-- Reads a file, if there is one at the path. The warnings come back with the new state, and a
file that is not UTF-8 stops the reading before it changes anything. -/
def readFile (c : Configuration) (path : String) : FileContent →
    Except Text.Utf8Fault (Configuration × List String)
  | .absent | .directory => .ok (c, [])
  | .bytes b =>
    match Text.decodeUtf8 b with
    | .error e => .error e
    | .ok text =>
      let (c', w) := c.takeVariables (variablesOfText text)
      .ok ({ c' with file := some path }, w)

/-- The variables of the process that belong to this program. -/
def ownVariables (env : List (String × String)) : List (String × String) :=
  env.filter fun (k, _) => Text.startsWith Setting.variableStart.toList k.toList

/-- Takes the variables of the process. -/
def readProcess (c : Configuration) (env : List (String × String)) :
    Configuration × List String :=
  c.takeVariables (ownVariables env)

end Configuration

end Stepwise
