import Stepwise.Value.Show
/-!
# Failed steps

The text that a failed step leaves in the output.
-/

namespace Stepwise

/-- How the text of every failed step starts. -/
def stepErrorStart : String := "Error in step '"

/-- What a failed step leaves in the output. -/
def stepErrorText (step message : String) : String := stepErrorStart ++ step ++ "': " ++ message

/-- Is the output the text of a failed step? -/
def isStepError (output : Value) : Bool :=
  match output.text? with
  | some s => stepErrorStart.isPrefixOf s
  | none => false

end Stepwise
