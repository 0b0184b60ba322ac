import Stepwise.Template.Filter.Choice
import Stepwise.Template.Filter.Html
import Stepwise.Template.Filter.Links
import Stepwise.Template.Filter.Numbers
import Stepwise.Template.Filter.Texts
import Stepwise.Template.Formatting
import Stepwise.Template.Question
import Stepwise.Template.Target
/-!
# Applying filters and tests

Filters and tests by name, with arguments; also by a name that is itself a value, as when every
value of a source is changed by a filter.
-/

namespace Stepwise.Template

/-- What a filter does. -/
private def filterNamed? (id : String) : Option (Application → Run Value) :=
  [Filter.ofTexts?, Filter.ofNumbers?, Filter.ofSequences?, Filter.ofChoice?, Filter.ofHtml?].findSome? (· id)
    |>.orElse fun _ => if id == "urlize" then some Filter.urlize else none

private def noneNamed {α : Type} (kind shown : String) : Run α :=
  Run.raise Classes.templateRuntimeError ("No " ++ kind ++ " named " ++ shown)

/-- Applies a filter to a value. -/
def applyFilter (m : Machine) (place : Place) (id : String) (v : Value) (args : Args) : Run Value := do
  match filterCallings.lookup id, filterNamed? id with
  | some c, some f => f (← c.assign m place v args)
  | _, _ => noneNamed "filter" (Text.quoted id ++ " found.")

/-- Asks a test about a value. -/
def applyTest (m : Machine) (place : Place) (id : String) (v : Value) (args : Args) : Run Value := do
  match testCallings.lookup id with
  | some c => Question.answer id (← c.assign m place v args)
  | none => noneNamed "test" (Text.quoted id ++ " found.")

/-- The name of a filter or a test that a value gives. -/
private def nameOf (kind : String) (known : String → Bool) (id : Value) : Run String := do
  let _ ← id.key
  match id.text? with
  | some s => if known s then return s else noneNamed kind (Text.quoted s ++ ".")
  | none =>
    let shown := (← id.display) ++ "."
    match ← Run.object? id with
    | some (.undefined u) =>
      noneNamed kind (shown ++ " (" ++ (← undefinedMessage u) ++ "; did you forget to quote the callable name?)")
    | _ => noneNamed kind shown

/-- Calls a part of the vocabulary as a function of one value. -/
def callFitting (m : Machine) (place : Place) (f : Fitting) (a : Args) : Run Value := do
  let v := a.pos.headD .null
  match f with
  | .filter id args named => applyFilter m place (← nameOf "filter" isFilter id) v ⟨args, named⟩
  | .attr path default ignoreCase =>
    let x ← follow m place path default v
    return if ignoreCase then withoutCase x else x
  | .test path id args named =>
    let x ← match path with
      | some p => follow m place p none v
      | none => pure v
    match id with
    | some id => applyTest m place (← nameOf "test" isTest id) x ⟨args, named⟩
    | none => return .bool (← x.truthy)
  | .listed id args =>
    match filterCallings.lookup id, Filter.sources? id with
    | some c, some f => f (← c.assign m place (args.pos.headD .null) ⟨args.pos.drop 1, args.named⟩)
    | _, _ => Run.list []
  | .format text fromMapping => Formatting.apply m place text fromMapping a
  | .rebuilt target => target.rebuilt (← target.bindings m v)
  | .condition target test =>
    let symbols := Symbols.ofCondition (← knownFrom place) target test
    let inner ← enter place symbols (handed (← target.bindings m v))
    m.expr inner test

end Stepwise.Template
