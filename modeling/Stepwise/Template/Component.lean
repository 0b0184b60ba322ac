import Stepwise.Template.Render
/-!
# Components

A template is run once for what it exports. If that includes a function of a given name, the
function is the component; otherwise the component is the template as a whole, which is rendered
again, with its context and the properties of the call, whenever it is called.
-/

namespace Stepwise.Template

/-- What a template exports when it is run with a context, and its text. -/
def exportsOf (m : Machine) (t : Template) (context : Value) : Run Value := do
  let (page, pieces) ← renderPage m t [("context", context)]
  Run.new (.templateModule (← pageAt page).exports pieces)

/-- The methods of what a template exports. -/
def exportMethods : List String := ["__html__", "__init__", "__repr__", "__str__"]

/-- The methods that it has because everything has them. -/
def commonMethods : List String :=
  ["__delattr__", "__dir__", "__eq__", "__format__", "__ge__", "__getattribute__", "__getstate__", "__gt__",
    "__hash__", "__init_subclass__", "__le__", "__lt__", "__ne__", "__new__", "__reduce__", "__reduce_ex__",
    "__setattr__", "__sizeof__", "__subclasshook__"]

/-- What there is under a name: what is exported under it, or what all that is exported can be asked. -/
def exported? (exports : Value) (id : String) : Run (Option Value) := do
  match ← Run.object? exports with
  | some (.templateModule members _) =>
    match members.lookup id with
    | some v => return some v
    | none =>
      if exportMethods.contains id then return some (← Run.new (.method exports (.fn ("TemplateModule." ++ id))))
      else if commonMethods.contains id then return some (← Run.new (.builtinMethod exports id))
      else if id == "__class__" then return some (.cls "jinja2.environment.TemplateModule")
      else return none
  | _ => return none

/-- The component that is the template as a whole. -/
def wholeTemplate (t : Template) (context : Value) : Run Value := do
  Run.new (.component (← Run.alloc (.template t)) context)

/-- The component of a template: what it exports under a name, if that can be called. -/
def componentOf (m : Machine) (t : Template) (context : Value) (name : String) : Run Value := do
  let exports ← exportsOf m t context
  match ← exported? exports name with
  | some v => if ← v.isCallable then return v else wholeTemplate t context
  | none => wholeTemplate t context

/-- Calls a method of what a template exports. -/
def callExports (name : String) (a : Args) : Run Value := do
  let given ← a.assigned name ["self"] []
  let text ← ((given.lookup "self").getD .null).plain
  return if name == "TemplateModule.__html__" then .markup text else .str text

/-- The template with an address. -/
def templateAt (a : Addr) : Run Template := do
  match ← Run.load a with
  | .template t => return t
  | _ => return default

/-- The text of a template with a context and properties, which is markup. -/
def rendered (m : Machine) (t : Template) (context props : Value) : Run Value := do
  let (_, pieces) ← renderPage m t [("context", context), ("props", props)]
  return .markup (← joinPieces pieces)

/-- A copy of properties; without any it is empty. -/
def copied (m : Machine) (props : Value) : Run Dict := do
  let pairs ← if ← props.truthy then m.pairsOf props else pure []
  Dict.putAll Dict.empty pairs

/-- Renders a template as a component, with a copy of the properties. -/
def callComponent (m : Machine) (template : Addr) (context : Value) (a : Args) : Run Value := do
  let t ← templateAt template
  let given ← a.assignedOf "TemplateComponent.__call__" [] [("props", .null)]
  let d ← copied m ((given.lookup "props").getD .null)
  rendered m t context (← Run.dict d)

end Stepwise.Template
