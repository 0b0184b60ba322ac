import Stepwise.Run.Unpack
import Stepwise.Template.Access
import Stepwise.Template.Vocabulary
/-!
# Operands

What filters and tests do with values of any kind: take their text, ask whether they count as
escaped, call a method of theirs, read them later.
-/

namespace Stepwise.Template

/-! ## Texts -/

/-- A text as it is, escaped or not, and any other value as its plain text. -/
def softText (v : Value) : Run Value := do
  match ← v.payload with
  | .str s => return .str s
  | .markup s => return .markup s
  | _ => return .str (← v.plain)

/-- The characters of a text, or of the plain text of another value. -/
def softChars (v : Value) : Run (List Char) := do return ((← softText v).text?.getD "").toList

/-- Does a value say itself how it is written as HTML? -/
def hasHtml (v : Value) : Run Bool := do
  match v with
  | .markup _ => return true
  | _ =>
    match ← Run.object? v with
    | some (.templateModule ..) => return true
    | some (.undefined u) => return u.lenience == .chainable
    | _ => return false

/-- A value as escaped text. -/
def escaped (v : Value) : Run Value := do return .markup (← escapedText v)

/-- A text that counts as escaped, as it is; other values by their plain text. -/
def marked (v : Value) : Run Value := do return .markup (← v.plain)

/-- A joined text, which counts as escaped or not. -/
def textValue (escapes : Bool) (s : String) : Value := if escapes then .markup s else .str s

/-! ## Methods and sources -/

/-- Calls a method of a value. -/
def callOwn (m : Machine) (v : Value) (id : String) (args : List Value) : Run Value := do
  match ← attribute? m v id with
  | some f => m.apply f args
  | none => Run.attributeError ("'" ++ (← v.kindName) ++ "' object has no attribute '" ++ id ++ "'")

/-- The pairs that a value hands out as its items. -/
def itemPairs (m : Machine) (v : Value) : Run (List (Value × Value)) := do
  (← m.collect (← callOwn m v "items" [])).mapM fun p => do
    let parts ← m.unpack 2 p
    return (parts.headD .null, parts.getD 1 .null)

/-- Is a value of a kind that can be read value by value? An undefined value is, even if reading it fails. -/
def isIterable (v : Value) : Run Bool := do
  if ← isUndefined v then return true else v.isSource

/-- The first value of a source, if it has one. -/
def firstOf? (m : Machine) (v : Value) : Run (Option Value) := do m.advance (← v.reader)

/-- A source that is opened when it is first read. -/
def openedLater (v : Value) : Run Value := Run.new (.cursor "generator" (.chain none [v] none))

/-- A source that is made when it is first read: by a filter, from its arguments. -/
def madeLater (place : Place) (id : String) (args : Args) : Run Value := do
  let maker ← Run.new (.fitting (.listed id args) place)
  let sources ← Run.new (.cursor "generator" (.deferred maker))
  Run.new (.cursor "generator" (.chain none [] (some sources)))

/-! ## Applications -/

/-- A filter or a test at work: where, on which value, and with which arguments. Those for
parameters have names, of the others some have. -/
structure Application where
  machine : Machine
  place : Place
  value : Value
  given : List (String × Value)
  rest : List Value
  named : List (String × Value)
  /-- The value and all arguments as they were handed over. -/
  all : Args

namespace Application

/-- The argument for a parameter, if there is one. -/
def argument? (a : Application) (id : String) : Option Value := a.given.lookup id

def argument (a : Application) (id : String) (default : Value) : Value := (a.argument? id).getD default

/-- The argument for a parameter, if there is one that is not nothing. -/
def present? (a : Application) (id : String) : Option Value :=
  match a.argument? id with
  | none | some .null => none
  | some v => some v

/-- Do texts count as escaped where this happens? -/
def escapes (a : Application) : Run Bool := do return (← pageAt a.place.page).escapes

end Application

/-- Gives a value and arguments to the parameters of a calling. -/
def Calling.assign (c : Calling) (m : Machine) (place : Place) (v : Value) (args : Args) : Run Application := do
  let all : Args := ⟨v :: args.pos, args.named⟩
  let places := c.required ++ c.optional
  match c.counting with
  | .exactly => let _ ← all.one c.label
  | .expected => let _ ← all.between c.label places.length places.length
  | .byName =>
    let hidden := match c.hidden with
      | .nothing => []
      | .environment => ["environment"]
      | .escaping => ["eval_ctx"]
      | .context => ["context"]
    let signature : Script.Signature :=
      { positional := hidden ++ places
        rest := if c.openEnded then some "args" else none
        keywordRest := if c.openEnded then some "kwargs" else none }
    let _ ← signature.assign c.label (c.optional.map fun _ => .null) []
      ⟨hidden.map (fun _ => .null) ++ all.pos, all.named⟩
  return {
    machine := m, place := place, value := v
    given := places.zip all.pos ++ all.named.filter fun (k, _) => places.contains k
    rest := all.pos.drop places.length
    named := all.named.filter fun (k, _) => !places.contains k
    all := all }

end Stepwise.Template
