import Stepwise.Text.Cut
/-!
# Common indentation

A text that was written further in, as inside a list of steps, is moved to the left by what all
its lines have in common.
-/

namespace Stepwise.Text

def isIndent (c : Char) : Bool := c == ' ' || c == '\t'

def common : List Char → List Char → List Char
  | a :: r, b :: s => if a = b then a :: common r s else []
  | _, _ => []

/-- The blanks that all lines begin with, lines of nothing but blanks aside. -/
def sharedIndent (lines : List (List Char)) : List Char :=
  let indents := (lines.filter fun l => l.any (!isIndent ·)).map (·.takeWhile isIndent)
  match indents with
  | [] => []
  | i :: rest => rest.foldl common i

/-- Takes the shared indentation off every line, and empties lines of nothing but blanks. -/
def dedent (s : List Char) : List Char :=
  let lines := splitChars '\n' s
  let margin := (sharedIndent lines).length
  let lines := lines.map fun l => if l.all isIndent then [] else l.drop margin
  ['\n'].intercalate lines

end Stepwise.Text
