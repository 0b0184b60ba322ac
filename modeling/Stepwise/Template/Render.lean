import Stepwise.Template.Block
import Stepwise.Template.Evaluate
import Stepwise.Template.Repeat
/-!
# Rendering

The text of a template comes in pieces, in reading order. Values are printed where they stand, escaped or
not; what blocks, calls and filters of whole parts answer is a piece as it is.
-/

namespace Stepwise.Template

/-! ## Printed values -/

def isWritten (e : Expr) : Bool :=
  match e with
  | .data _ => true
  | _ => false

/-- The text of one printed value. -/
def printValue (m : Machine) (place : Place) (e : Expr) : Run Value := do
  match e with
  | .data s => return .str s
  | e =>
    let v ← m.expr place e
    if ← place.escapesNow then escaped v else return .str (← v.plain)

/-- The piece of printed values that stand together. -/
def printGroup (m : Machine) (place : Place) : List Expr → Run Value
  | [e] => printValue m place e
  | es => do return .str (String.join ((← es.mapM (printValue m place)).filterMap Value.text?))

/-- Is known beforehand what is printed? -/
def isSettled (place : Place) (e : Expr) : Bool := settled place e || (isWritten e && place.escaping != .asPage)

/-- The printed values; neighbours that are known beforehand make one piece. -/
def printAll (m : Machine) (place : Place) (parts : List Expr) : Run (List Value) :=
  (parts.splitBy fun a b => isSettled place a && isSettled place b).mapM (printGroup m place)

/-! ## Other templates -/

/-- There is nowhere to take other templates from. -/
private def noLoader {α : Type} : Run α := Run.typeError "no loader for this environment specified"

private def includeFrom (m : Machine) (e : Expr) (v : Value) (ignoreMissing : Bool) : Run Unit := do
  let selects := match e with
    | .tuple _ | .list _ => true
    | _ => false
  let single ← match v with
    | .str _ | .markup _ => pure true
    | v => isUndefined v
  if single && !selects then noLoader
  if ← v.truthy then
    if (← m.collect v).isEmpty then
      Run.raiseWith "jinja2.exceptions.TemplatesNotFound" [v]
    else noLoader
  else if !ignoreMissing then
    Run.raise "jinja2.exceptions.TemplatesNotFound" "Tried to select from an empty list of templates."

/-! ## Nodes -/

/-- Renders a body in names of its own. -/
private def within (m : Machine) (place : Place) (symbols : Symbols) (given : List (String × Option Value))
    (body : List Node) : Run (List Value) := do
  let inner ← enter place symbols given
  let pieces ← m.nodes inner body
  leave inner
  return pieces

private def renderWith (m : Machine) (place : Place) (targets values : List Expr) (body : List Node) :
    Run (List Value) := do
  let symbols := Symbols.ofInner (← knownFrom place) (targets.flatMap Expr.writes) [] body []
  let inner ← enter place symbols []
  (targets.zip values).forM fun (target, value) => do
    assignTarget m inner target (← m.expr place value)
  let pieces ← m.nodes inner body
  leave inner
  return pieces

/-- A body with a filter for its whole text. -/
private def renderFiltered (m : Machine) (place : Place) (filter : Expr) (body : List Node) : Run (List Value) := do
  let inner ← enter place (Symbols.ofInner (← knownFrom place) [] [] body [filter]) []
  let text ← joinPieces (← m.nodes inner body)
  let v ← evaluateChain m inner (textValue (← place.escapesNow) text) filter
  leave inner
  return [v]

/-- A target that gets the text of a body, perhaps filtered. -/
private def assignText (m : Machine) (place : Place) (target filter : Expr) (body : List Node) : Run Unit := do
  let inner ← enter place (Symbols.ofInner (← knownFrom place) [] [] body []) []
  let text ← joinPieces (← m.nodes inner body)
  let v ← match filter with
    | .omitted => pure (.str text)
    | filter => do evaluateChain m inner (textValue (← place.escapesNow) text) filter
  let v ← if (← pageAt place.page).escapes then marked v else pure v
  assignTarget m place target v
  leave inner

/-- A body in which it is settled anew whether values are escaped. -/
private def renderEscaping (m : Machine) (place : Place) (value : Expr) (body : List Node) : Run (List Value) := do
  let inner ← enter place (Symbols.ofInner (← knownFrom place) [] [value] body []) []
  let before := (← pageAt place.page).escapes
  let escapes ← (← m.expr inner value).truthy
  updatePage place.page fun p => { p with escapes }
  let escaping :=
    if place.escaping == .asPage || !value.isConstant then .asPage
    else if escapes then Escaping.always else .never
  let pieces ← m.nodes { inner with escaping } body
  updatePage place.page fun p => { p with escapes := before }
  leave inner
  return pieces

private def renderCallBlock (m : Machine) (place : Place) (call : Expr) (caller : Value) : Run (List Value) := do
  match call with
  | .call f args => return [← evaluateCall m place f args [("caller", caller)]]
  | _ => return []

/-- The pieces of a node. -/
def renderNode (m : Machine) (place : Place) (n : Node) : Run (List Value) := do
  match n with
  | .output parts => printAll m place parts
  | .ite test yes no => if ← (← m.expr place test).truthy then m.nodes place yes else m.nodes place no
  | .forLoop target source body otherwise test recursive =>
    let shape : LoopShape := { target, body, otherwise, test, place }
    let v ← m.expr place source
    if recursive then return [← loopText m shape v 0] else runLoop m shape v 0 false
  | .macroDef id params defaults body =>
    assignName place id (← macroAt place (some id) params defaults body)
    return []
  | .callBlock call params defaults body =>
    renderCallBlock m place call (← macroAt place none params defaults body)
  | .filterBlock filter body => renderFiltered m place filter body
  | .withBlock targets values body => renderWith m place targets values body
  | .block id body seesLocals required =>
    if required then
      Run.raise Classes.templateRuntimeError ("Required block " ++ Text.quoted id ++ " not found")
    let page ← if seesLocals then derivedPage place.page (← storedAt place) else pure place.page
    renderBlock m page id body
  | .assign target value =>
    checkOwners place target
    assignTarget m place target (← m.expr place value)
    return []
  | .assignBlock target filter body =>
    assignText m place target filter body
    return []
  | .extends e | .importAs e _ | .importFrom e _ =>
    let _ ← m.expr place e
    noLoader
  | .included e ignoreMissing =>
    includeFrom m e (← m.expr place e) ignoreMissing
    return []
  | .autoescape value body => renderEscaping m place value body

/-- The pieces of nodes that follow each other. -/
def renderNodes (m : Machine) (place : Place) (ns : List Node) : Run (List Value) := do
  return (← ns.mapM (renderNode m place)).flatten

end Stepwise.Template
