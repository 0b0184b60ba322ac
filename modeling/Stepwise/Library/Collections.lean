import Stepwise.Library.Mappings
import Stepwise.Library.Sequences
import Stepwise.Text.Case
/-!
# Special containers

Counters, dictionaries with an order or a default, queues, and tuples whose members have names.
-/

namespace Stepwise.Collections

def classes : List String := ["Counter", "OrderedDict", "defaultdict", "deque"]

def functions : List String := ["namedtuple"]

/-! ## Records -/

/-- Words that cannot name a field. -/
private def reserved : List String :=
  ["False", "None", "True", "and", "as", "assert", "async", "await", "break", "class", "continue", "def", "del",
   "elif", "else", "except", "finally", "for", "from", "global", "if", "import", "in", "is", "lambda",
   "nonlocal", "not", "or", "pass", "raise", "return", "try", "while", "with", "yield"]

private def checkName (n : String) : Run Unit := do
  if !Text.isName n.toList then
    Run.valueError ("Type names and field names must be valid identifiers: " ++ Text.quoted n)
  if reserved.contains n then
    Run.valueError ("Type names and field names cannot be a keyword: " ++ Text.quoted n)

private def checkFields : List String → List String → Run Unit
  | _, [] => return ()
  | seen, n :: rest => do
    if n.startsWith "_" then
      Run.valueError ("Field names cannot start with an underscore: " ++ Text.quoted n)
    if seen.contains n then Run.valueError ("Encountered duplicate field name: " ++ Text.quoted n)
    checkFields (n :: seen) rest

/-- Replaces names that cannot be used by their places. -/
private def renamed (names : List String) : List String :=
  names.zipIdx.map fun (n, i) =>
    if Text.isName n.toList && !reserved.contains n && !n.startsWith "_" && !(names.take i).contains n then n
    else "_" ++ toString i

/-- Makes a class of records. The members of the class hold the defaults of its fields. -/
private def makeRecordClass (m : Machine) (a : Args) : Run Value := do
  let given ← a.assigned "namedtuple" ["typename", "field_names"] []
    [("rename", .bool false), ("defaults", .null), ("module", .null)]
  let value (n : String) : Value := (given.lookup n).getD .null
  let name ← (value "typename").plain
  let fields ← match (value "field_names").text? with
    | some s => pure ((Text.splitBlank none (s.toList.map fun c => if c == ',' then ' ' else c)).map String.ofList)
    | none => do
      let vs ← m.collect (value "field_names")
      vs.mapM Value.plain
  let fields := if ← (value "rename").truthy then renamed fields else fields
  (name :: fields).forM checkName
  checkFields [] fields
  let defaults ← match value "defaults" with
    | .null => pure []
    | v => m.collect v
  if defaults.length > fields.length then Run.typeError "Got more default values than field names"
  let withDefaults := (fields.drop (fields.length - defaults.length)).zip defaults
  Run.new (.cls
    { id := name, path := name, bases := [.cls "tuple"], members := withDefaults, fields := some fields })

/-- Makes a record of a class. -/
def makeRecord (cls : Addr) (name : String) (fields : List String) (defaults : List (String × Value))
    (a : Args) : Run Value := do
  let sig : Script.Signature := { positional := "_cls" :: fields }
  let last := fields.filterMap fun n => defaults.lookup n
  let given ← sig.assign (name ++ ".__new__") last [] ⟨.null :: a.pos, a.named⟩
  Run.new (.tuple (some cls) ((given.drop 1).map (·.2)))

/-! ## Containers -/

private def makeDeque (m : Machine) (a : Args) : Run Value := do
  let args ← a.bound "deque" ["iterable", "maxlen"]
  let limit ← match (args.getD 1 none).getD .null with
    | .null => pure none
    | v =>
      match v.int? with
      | some n =>
        if n < 0 then Run.valueError "maxlen must be non-negative" else pure (some n.toNat)
      | none => Run.typeError "an integer is required"
  let items ← match args.getD 0 none with
    | none => pure []
    | some v => m.collect v
  Run.new (.deque (Sequences.keepLast limit items) limit)

/-- Makes a container. -/
def make (m : Machine) (name : String) (a : Args) : Run Value := do
  match name with
  | "Counter" =>
    if a.pos.length > 1 then
      Run.typeError ("Counter.__init__() takes from 1 to 2 positional arguments but " ++
        toString (a.pos.length + 1) ++ " were given")
    Run.new (.dict .counter (← Mappings.count m Dict.empty a .add))
  | "OrderedDict" =>
    let ps ← Mappings.givenPairs m "OrderedDict" a
    Run.new (.dict .ordered (← Dict.putAll Dict.empty ps))
  | "defaultdict" =>
    let f := a.pos.headD .null
    if !f.isNull && !(← f.isCallable) then Run.typeError "first argument must be callable or None"
    let ps ← Mappings.givenPairs m "defaultdict" ⟨a.pos.drop 1, a.named⟩
    Run.new (.dict (.defaulting f) (← Dict.putAll Dict.empty ps))
  | "deque" => makeDeque m a
  | _ => makeRecordClass m a

end Stepwise.Collections
