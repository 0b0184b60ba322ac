import Stepwise.Library.Builtins
import Stepwise.Template.Operand
import Stepwise.Text.Wrap
/-!
# Filters of texts

Cases, cutting, filling and wrapping. A text that counts as escaped stays so wherever its own methods
keep it so.
-/

namespace Stepwise.Template.Filter

/-! ## Cases and blanks -/

/-- A method of the text of the value. -/
private def bySelf (id : String) (a : Application) : Run Value := do
  callOwn a.machine (← softText a.value) id []

/-- Words that begin behind blanks, dashes and opening brackets get a capital. -/
def titleWords (s : List Char) : List Char :=
  let opens (c : Char) : Bool := Text.isBlank c || ['-', '(', '\x7b', '[', '<'].contains c
  let grouped := s.splitBy fun c d => opens c == opens d
  grouped.flatMap fun cs => match cs with
    | [] => []
    | c :: r => if opens c then cs else Text.upperOf c ++ Text.lowerChars r

private def title (a : Application) : Run Value := do
  return .str (String.ofList (titleWords (← softChars a.value)))

private def trim (a : Application) : Run Value := do
  callOwn a.machine (← softText a.value) "strip" [a.argument "chars" .null]

private def center (a : Application) : Run Value := do
  callOwn a.machine (← softText a.value) "center" [a.argument "width" (.int 80)]

/-- The number of words, which are runs of letters, numerals and underscores. -/
def wordCount (s : List Char) : Nat :=
  ((s.splitBy fun c d => Text.isWordChar c == Text.isWordChar d).filter fun cs =>
    match cs with
    | c :: _ => Text.isWordChar c
    | [] => false).length

/-! ## Lines -/

private def indent (a : Application) : Run Value := do
  let m := a.machine
  let width := a.argument "width" (.int 4)
  let escapedInput := match a.value with
    | .markup _ => true
    | _ => false
  let indention ← match width with
    | .str _ | .markup _ => pure width
    | w => operate .mul (.str " ") w
  let indention := if escapedInput then Value.markup (indention.text?.getD "") else indention
  let newline := textValue escapedInput "\n"
  let lines ← m.collect (← callOwn m (← operateInPlace m .add a.value newline) "splitlines" [])
  let rv ← if ← (a.argument "blank" (.bool false)).truthy then
      callOwn m (← operate .add newline indention) "join" [← Run.list lines]
    else match lines with
      | [] => Run.indexError "pop from empty list"
      | first :: [] => pure first
      | first :: rest =>
        let indented ← rest.mapM fun l => do
          if ← l.truthy then operate .add indention l else return l
        let behind ← callOwn m newline "join" [← Run.list indented]
        operate .add first (← operate .add newline behind)
  if ← (a.argument "first" (.bool false)).truthy then operate .add indention rv else return rv

private def wordwrap (a : Application) : Run Value := do
  let m := a.machine
  let between := (a.present? "wrapstring").getD (.str "\n")
  let width := a.argument "width" (.int 79)
  let breakLong ← (a.argument "break_long_words" (.bool true)).truthy
  let hyphens ← (a.argument "break_on_hyphens" (.bool true)).truthy
  let join (vs : List Value) : Run Value := do callOwn m between "join" [← Run.list vs]
  if (← attribute? m between "join").isNone then let _ ← join []
  let lines ← m.collect (← callOwn m a.value "splitlines" [])
  let wrapped ← lines.mapM fun l => do
    if ← m.test .le width (.int 0) then
      Run.valueError ("invalid width " ++ (← width.display) ++ " (must be > 0)")
    let n := (← width.toInt).toNat
    let pieces := Text.Wrap.lines n breakLong hyphens (l.text?.getD "").toList
    join (pieces.map fun cs => .str (String.ofList cs))
  join wrapped

/-! ## Length -/

private def truncate (a : Application) : Run Value := do
  let m := a.machine
  let length := a.argument "length" (.int 255)
  let mark := a.argument "end" (.str "...")
  let leeway := (a.present? "leeway").getD (.int 5)
  let markSize ← Builtins.size m mark
  let refuse {α : Type} (least : Value) (got : Value) (what : String) : Run α := do
    Run.raise "AssertionError" ("expected " ++ what ++ " >= " ++ (← least.plain) ++ ", got " ++ (← got.plain))
  if !(← m.test .ge length markSize) then refuse markSize length "length"
  if !(← m.test .ge leeway (.int 0)) then refuse (.int 0) leeway "leeway"
  if ← m.test .le (← Builtins.size m a.value) (← operate .add length leeway) then return a.value
  let start ← getItem m a.value (← Run.new (.slice .null (← operate .sub length markSize) .null))
  if ← (a.argument "killwords" (.bool false)).truthy then operate .add start mark
  else
    let parts ← callOwn m start "rsplit" [.str " ", .int 1]
    operate .add (← getItem m parts (.int 0)) mark

/-! ## Values in texts -/

private def format (a : Application) : Run Value := do
  if !a.rest.isEmpty && !a.named.isEmpty then
    Run.raise Classes.filterArgumentError "can't handle positional and keyword arguments at the same time"
  let operand ← if a.named.isEmpty then Run.tuple a.rest else Run.dict (Dict.ofTexts a.named)
  operate .mod (← softText a.value) operand

/-- The filters of texts. -/
def ofTexts? : String → Option (Application → Run Value)
  | "capitalize" => some (bySelf "capitalize")
  | "lower" => some (bySelf "lower")
  | "upper" => some (bySelf "upper")
  | "title" => some title
  | "trim" => some trim
  | "center" => some center
  | "wordcount" => some fun a => do return .int (wordCount (← softChars a.value))
  | "string" => some fun a => softText a.value
  | "indent" => some indent
  | "wordwrap" => some wordwrap
  | "truncate" => some truncate
  | "format" => some format
  | _ => none

end Stepwise.Template.Filter
