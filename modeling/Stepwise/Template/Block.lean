import Stepwise.Template.Check
import Stepwise.Template.Environment
import Stepwise.Template.Macro
/-!
# Pages and blocks

A page is one rendering of a template. Its blocks can be asked for again by the name `self`; each
time a block is rendered with names of its own.
-/

namespace Stepwise.Template

/-- Names around which there are none. -/
def outermost (page : Addr) (escaping : Escaping) : Run Place := do
  return { page, names := ← Run.alloc (.names ⟨[], [], none⟩), escaping, topLevel := false }

/-- How printed values are treated where nothing else is said. -/
def ordinaryEscaping (s : TemplateSettings) : Escaping := if s.autoescape then .always else .never

/-- The pieces of a block's text. -/
def renderBlock (m : Machine) (page : Addr) (id : String) (body : List Node) : Run (List Value) := do
  let outer ← outermost page (ordinaryEscaping (← pageAt page).settings)
  let given := ["self", "super"].filter fun name => isFree name body
  let values ← given.mapM fun name => do
    if name == "self" then return (name, some (← Run.new (.selfRef page)))
    else return (name, some (← outer.because ("there is no parent block called " ++ Text.quoted id ++ ".")))
  m.nodes (← enter outer (Symbols.ofBody given body) values) body

/-- The text of a block of a page. -/
def blockText (m : Machine) (page : Addr) (id : String) : Run Value := do
  let p ← pageAt page
  match p.blocks.find? (·.id == id) with
  | none => return .str ""
  | some b =>
    let text ← joinPieces (← renderBlock m page id b.body)
    return textValue (← pageAt page).escapes text

/-- A page that sees all that another page sees, and some names besides, but assigns apart from it. -/
def derivedPage (page : Addr) (seen : List (String × Value)) : Run Addr := do
  let p ← pageAt page
  let all := p.set ++ p.given.filter fun (k, _) => (p.set.lookup k).isNone
  let others := all.filter fun (k, _) => (seen.lookup k).isNone
  Run.alloc (.page { p with given := seen ++ others, set := [], exported := [] })

/-- Renders a template with variables, which go before those of its environment: the page, and the pieces of
the text. -/
def renderPage (m : Machine) (t : Template) (given : List (String × Value)) : Run (Addr × List Value) := do
  let page ← Run.alloc (.page {
    settings := t.settings, given := given ++ (← variablesOf t.toolchain), set := [], exported := []
    blocks := (blocksOf t.body).map fun (id, body) => ⟨id, body⟩
    escapes := t.settings.autoescape })
  let outer ← outermost page (ordinaryEscaping t.settings)
  let own := ["self"].filter fun name => isFree name t.body
  let values ← own.mapM fun name => do return (name, some (← Run.new (.selfRef page)))
  let place ← enter outer (Symbols.ofBody own t.body) values
  return (page, ← m.nodes { place with topLevel := true } t.body)

end Stepwise.Template
