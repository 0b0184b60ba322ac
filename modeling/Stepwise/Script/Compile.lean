import Stepwise.Script.Statement
import Stepwise.Script.Policy
import Stepwise.Script.Placement
import Stepwise.Text.Dedent
/-!
# From text to a script that may run

The text is moved to the left, read, held against the policy and searched for things out of place.
What is left is a list of statements, the body of the function that a step is.
-/

namespace Stepwise.Script

/-- Why a text is no script that may run. -/
inductive Refusal where
  /-- A character that ends texts elsewhere. -/
  | nullCharacter
  | unreadable (f : Fault)
  | offences (vs : List Policy.Violation)
  | misplaced (m : Misplacement)
  deriving Inhabited

def FaultKind.label : FaultKind → String
  | .malformed => "SyntaxError"
  | .indentation => "IndentationError"
  | .tabs => "TabError"

def Fault.message (f : Fault) : String :=
  "Line " ++ toString f.line ++ ": " ++ f.kind.label ++ ": invalid syntax"

/-- The name that a script has in messages. -/
def fileName : String := "<jinx script>"

/-- The errors of a refusal that is reported as a list. -/
def Refusal.errors : Refusal → List String
  | .unreadable f => [f.message]
  | .offences vs => vs.map Policy.Violation.message
  | .nullCharacter | .misplaced _ => []

def compile (source : String) : Except Refusal (List Stmt) := do
  if source.toList.contains '\x00' then throw .nullCharacter
  let script ← match read (Text.dedent source.toList) with
    | .ok ss => pure ss
    | .error f => throw (.unreadable f)
  match Policy.violations script with
  | [] => pure ()
  | vs => throw (.offences vs)
  match misplacement? script with
  | some m => throw (.misplaced m)
  | none => return script

end Stepwise.Script
