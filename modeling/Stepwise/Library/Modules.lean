import Stepwise.Library.Collections
import Stepwise.Library.Functions
import Stepwise.Library.Iteration
import Stepwise.Library.Json
import Stepwise.Library.Mathematics
import Stepwise.Library.Moments
import Stepwise.Library.Patterns
import Stepwise.Library.Words
/-!
# Modules

The modules that scripts may bring in, and what is in them.
-/

namespace Stepwise.Modules

/-- The modules that scripts may bring in. -/
def allowed : List String :=
  ["math", "json", "re", "random", "string", "datetime", "itertools", "functools", "collections"]

/-- Modules that may have others inside. -/
def isPackage (name : String) : Bool := ["json", "re", "collections"].contains name

private def functionIn (module : String) (names : List String) (name : String) : Option Value :=
  if names.contains name then some (.fn (module ++ "." ++ name)) else none

private def classIn (module : String) (names : List String) (name : String) : Option Value :=
  if names.contains name then some (.cls (module ++ "." ++ name)) else none

/-- What a module holds under a name. -/
def member? (module name : String) : Option Value :=
  match module with
  | "math" => (Mathematics.constants.lookup name).orElse fun _ => functionIn module Mathematics.functions name
  | "json" =>
    if name == "JSONDecodeError" then some (.cls "json.decoder.JSONDecodeError")
    else functionIn module Json.functions name
  | "re" =>
    (Patterns.flagValues.lookup name).orElse fun _ =>
      (classIn module ["Pattern", "Match", "error"] name).orElse fun _ =>
        functionIn module Patterns.functions name
  | "string" =>
    (Words.constants.lookup name).orElse fun _ =>
      (classIn module ["Template"] name).orElse fun _ => functionIn module ["capwords"] name
  | "datetime" =>
    match name with
    | "MINYEAR" => some (.int 1)
    | "MAXYEAR" => some (.int 9999)
    | _ => classIn module ["date", "datetime", "time", "timedelta", "timezone", "tzinfo"] name
  | "itertools" =>
    (classIn module Iteration.classes name).orElse fun _ => functionIn module Iteration.functions name
  | "functools" =>
    (classIn module ["partial"] name).orElse fun _ => functionIn module Functions.functions name
  | "collections" =>
    (classIn module Collections.classes name).orElse fun _ => functionIn module Collections.functions name
  | _ => none

end Stepwise.Modules
