import Stepwise.Value.Show
import Stepwise.Text.Case
/-!
# Setting up a log

An application that hosts engines writes its log to the console from a level on, and perhaps to a
file from the debug level on. Handlers that were there before are replaced.
-/

namespace Stepwise.Logging

inductive HandlerKind where
  | console | file
  deriving DecidableEq, Inhabited

structure Handler where
  kind : HandlerKind
  level : Int
  format : String
  deriving DecidableEq, Inhabited

/-- The root of all loggers: its level, and where records go. -/
structure Root where
  level : Int
  handlers : List Handler
  deriving DecidableEq, Inhabited

def debugLevel : Int := 10
def infoLevel : Int := 20

/-- The form of a record: when, who, how grave, what. -/
def recordFormat : String := "%(asctime)s - %(name)s - %(levelname)s - %(message)s"

/-- The level that a name stands for, in upper case. -/
def levelOfName? : String → Option Int
  | "CRITICAL" | "FATAL" => some 50
  | "ERROR" => some 40
  | "WARNING" | "WARN" => some 30
  | "INFO" => some 20
  | "DEBUG" => some 10
  | "NOTSET" => some 0
  | _ => none

/-- The name of a level. -/
def levelName (n : Int) : String :=
  if n = 50 then "CRITICAL" else if n = 40 then "ERROR" else if n = 30 then "WARNING"
  else if n = 20 then "INFO" else if n = 10 then "DEBUG" else if n = 0 then "NOTSET"
  else "Level " ++ toString n

/-- The level that a value asks for; a name that is no level asks for the info level. -/
def levelOf (v : Value) : Run Int := do
  match v.text? with
  | some s => return (levelOfName? (Text.upper s)).getD infoLevel
  | none =>
    match v.int? with
    | some n => return n
    | none => Run.typeError ("Level not an integer or a valid string: " ++ (← v.display))

/-- The root after a set-up; nothing of the root before it stays. -/
def configure (_before : Root) (level : Int) (toFile : Bool) : Root :=
  let console : Handler := ⟨.console, level, recordFormat⟩
  if toFile then ⟨debugLevel, [console, ⟨.file, debugLevel, recordFormat⟩]⟩
  else ⟨level, [console]⟩

/-- Does a record of a level reach the handlers of a kind? -/
def Root.reaches (r : Root) (kind : HandlerKind) (level : Int) : Bool :=
  r.level ≤ level && r.handlers.any fun h => h.kind == kind && h.level ≤ level

/-- The line of a record, with the time given as text. -/
def recordLine (time logger : String) (level : Int) (message : String) : String :=
  time ++ " - " ++ logger ++ " - " ++ levelName level ++ " - " ++ message

end Stepwise.Logging
