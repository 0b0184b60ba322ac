import Stepwise.Library.Arguments
import Stepwise.Template.Operand
import Stepwise.Template.Target
/-!
# Macros

A macro is a part of a template that can be called with arguments, and then answers its text. It
sees the names around it as they are when it is called. Its body shows by what it reads whether the
macro takes further arguments, or the caller that a call block hands over.
-/

namespace Stepwise.Template

/-! ## Pieces of text -/

/-- Puts the pieces of a text together; only texts can be put together. -/
def joinPieces (pieces : List Value) : Run String := do
  let texts ← pieces.zipIdx.mapM fun (v, i) => do
    match (← v.payload).text? with
    | some s => return s
    | none =>
      Run.typeError ("sequence item " ++ toString i ++ ": expected str instance, " ++ (← v.kindName) ++ " found")
  return String.join texts

/-! ## Macros -/

/-- A macro that is defined at a place. -/
def macroAt (place : Place) (id : Option String) (params : List String) (defaults : List Expr)
    (body : List Node) : Run Value := do
  let reads (name : String) : Bool := isFree name body && !params.contains name
  Run.new (.macro' {
    id, params, defaults, body, place
    takesNamed := reads "kwargs"
    takesRest := reads "varargs"
    takesCaller := isFree "caller" body
    escapes := (← pageAt place.page).escapes })

/-- The arguments of a call as a macro takes them. -/
private structure Taken where
  /-- The values of the parameters, as far as there are any. -/
  params : List (String × Option Value)
  special : List (String × Value)

private def take (mac : Macro) (a : Args) : Run Taken := do
  let label := "macro " ++ (match mac.id with | some n => Text.quoted n | none => "None")
  let byPosition := (mac.params.zip a.pos).map fun (k, v) => (k, some v)
  let left := mac.params.drop a.pos.length
  let byName := left.map fun k => (k, a.named.lookup k)
  let named := a.named.filter fun (k, _) => !left.contains k
  let callerGiven := if left.isEmpty then mac.params.contains "caller" else left.contains "caller"
  let wantsCaller := mac.takesCaller && !callerGiven
  let caller ← match named.lookup "caller" with
    | none | some .null => mac.place.because "No caller defined"
    | some v => pure v
  let named := if wantsCaller then named.filter fun (k, _) => k != "caller" else named
  if !mac.takesNamed then
    match named with
    | [] => pure ()
    | (k, _) :: _ =>
      if (named.lookup "caller").isSome then
        Run.typeError (label ++ " was invoked with two values for the special caller argument. " ++
          "This is most likely a bug.")
      Run.typeError (label ++ " takes no keyword argument " ++ Text.quoted k)
  let rest := a.pos.drop mac.params.length
  if !mac.takesRest && !rest.isEmpty then
    Run.typeError (label ++ " takes not more than " ++ toString mac.params.length ++ " argument(s)")
  let rest ← Run.tuple rest
  let named ← Run.dict (Dict.ofTexts named)
  return {
    params := byPosition ++ byName
    special := (if wantsCaller then [("caller", caller)] else []) ++
      (if mac.takesNamed then [("kwargs", named)] else []) ++
      (if mac.takesRest then [("varargs", rest)] else []) }

/-- The default of the parameter at a place, if it has one. -/
private def defaultAt? (mac : Macro) (i : Nat) : Option Expr :=
  if i + mac.defaults.length < mac.params.length then none
  else mac.defaults[i + mac.defaults.length - mac.params.length]?

/-- Gives the parameters that were left out their defaults, first to last. -/
private def fillDefaults (m : Machine) (mac : Macro) (inner : Place) (taken : Taken) : Run Unit :=
  taken.params.zipIdx.forM fun ((k, v), i) => do
    if v.isNone then
      let d ← match defaultAt? mac i with
        | some d => m.expr inner d
        | none => inner.because ("parameter " ++ Text.quoted k ++ " was not provided")
      assignName inner k d

/-- Calls a macro; `escapes` says whether what it answers counts as escaped. -/
def callMacro (m : Machine) (mac : Macro) (escapes : Bool) (a : Args) : Run Value := do
  let taken ← take mac a
  let special := taken.special.map (·.1)
  let symbols := Symbols.ofMacro (← knownFrom mac.place) mac.params special mac.defaults mac.body
  let inner ← enter mac.place symbols (taken.params ++ handed taken.special)
  fillDefaults m mac inner taken
  return textValue escapes (← joinPieces (← m.nodes inner mac.body))

end Stepwise.Template
