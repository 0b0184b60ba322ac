import Stepwise.Template.Expression
import Stepwise.Text.Cut
/-!
# Reading templates

Text and printed expressions are gathered into one node until a tag comes. A tag that has a body is
followed by nodes up to one of the words that end it.
-/

namespace Stepwise.Template

open Reading

/-- The words that end a body. -/
abbrev Ends := List String

/-- A reader of the nodes up to a tag that begins with one of the words, or to the end of the template if
there are none. The word is left where it is. -/
abbrev BodyReader := Ends → Reading (List Node)

/-- The body of a tag. -/
private def bodyUntil (body : BodyReader) (ends : Ends) : Reading (List Node) := do
  let _ ← takeOp ":"
  needTagEnd
  let nodes ← body ends
  match ← peek with
  | .done => malformed
  | _ => return nodes

/-- The body of a tag, and the word that ends it. -/
private def bodyTo (body : BodyReader) (last : String) : Reading (List Node) := do
  let nodes ← bodyUntil body [last]
  advance
  return nodes

/-! ## Tags without names -/

private def readFor (body : BodyReader) : Reading Node := do
  let t ← target ["in"] false
  needWord "in"
  let source ← plainList ["recursive"]
  let test ← if ← takeWord "if" then inner.expr else pure .omitted
  let recursive ← takeWord "recursive"
  let nodes ← bodyUntil body ["endfor", "else"]
  if ← takeWord "endfor" then return .forLoop t source nodes [] test recursive
  advance
  return .forLoop t source nodes (← bodyTo body "endfor") test recursive

private def readIf (body : BodyReader) : Reading Node := do
  let branches ← loop ([] : List (Expr × List Node)) fun acc => do
    let test ← plainList []
    let nodes ← bodyUntil body ["elif", "else", "endif"]
    let acc := (test, nodes) :: acc
    if ← takeWord "elif" then return .inl acc else return .inr acc
  let otherwise ← if ← takeWord "else" then bodyTo body "endif" else (do
    advance
    pure [])
  let whole := branches.foldl (fun no (test, yes) => [Node.ite test yes no]) otherwise
  return whole.headD (.output [])

private def readWith (body : BodyReader) : Reading Node := do
  let pairs ← loop ([] : List (Expr × Expr)) fun acc => do
    if ← isTagEnd then return .inr acc.reverse
    if !acc.isEmpty then needOp ","
    let t ← target [] false
    needOp "="
    return .inl ((t, ← inner.expr) :: acc)
  return .withBlock (pairs.map (·.1)) (pairs.map (·.2)) (← bodyTo body "endwith")

private def readPrint : Reading Node := do
  loop ([] : List Expr) fun acc => do
    if ← isTagEnd then return .inr (.output acc.reverse)
    if !acc.isEmpty then needOp ","
    return .inl ((← inner.expr) :: acc)

/-- Filters behind bars, the first of them on what is left out here. -/
private def filters (start : Expr) : Reading Expr :=
  loop start fun e => do
    if ← takeOp "|" then return .inl (← filterOf inner e) else return .inr e

private def readFilter (body : BodyReader) : Reading Node := do
  let f ← filters (← filterOf inner .omitted)
  return .filterBlock f (← bodyTo body "endfilter")

private def readSet (body : BodyReader) : Reading Node := do
  let t ← target [] true
  if ← takeOp "=" then return .assign t (← expressionList)
  let f ← filters .omitted
  return .assignBlock t f (← bodyTo body "endset")

/-! ## Blocks and macros -/

/-- Is there nothing but blank text? -/
private def isBlankNode : Node → Bool
  | .output parts => parts.all fun e => match e with
    | .data s => !s.isEmpty && Text.isBlankText s
    | _ => false
  | _ => false

private def readBlock (body : BodyReader) : Reading Node := do
  let id ← needName
  let seesLocals ← takeWord "scoped"
  let required ← takeWord "required"
  if ← isOp "-" then malformed
  let nodes ← bodyTo body "endblock"
  if required && !nodes.all isBlankNode then malformed
  let _ ← takeWord id
  return .block id nodes seesLocals required

/-- A name that values can be given to. -/
private def nameTarget : Reading String := do
  let id ← needName
  if Expr.isTarget (.name id) then return id else malformed

/-- Parameters, and the defaults of the last ones. -/
private def signature : Reading (List String × List Expr) := do
  needOp "("
  loop (([], []) : List String × List Expr) fun (names, defaults) => do
    if ← takeOp ")" then return .inr (names.reverse, defaults.reverse)
    if !names.isEmpty then needOp ","
    let id ← nameTarget
    if ← takeOp "=" then return .inl (id :: names, (← inner.expr) :: defaults)
    if !defaults.isEmpty then malformed
    return .inl (id :: names, defaults)

private def readMacro (body : BodyReader) : Reading Node := do
  let id ← nameTarget
  let (params, defaults) ← signature
  return .macroDef id params defaults (← bodyTo body "endmacro")

private def readCall (body : BodyReader) : Reading Node := do
  let (params, defaults) ← if ← isOp "(" then signature else pure ([], [])
  match ← inner.expr with
  | .call f args => return .callBlock (.call f args) params defaults (← bodyTo body "endcall")
  | _ => malformed

/-! ## Other templates -/

/-- Whether the other template sees the variables, if that is said. -/
private def seesContext? : Reading (Option Bool) := do
  if (← isWordIn ["with", "without"]) && Token.isWord (← peekSecond) "context" then
    let w ← isWord "with"
    advance
    advance
    return some w
  else return none

private def readInclude : Reading Node := do
  let source ← inner.expr
  let ignore := (← isWord "ignore") && Token.isWord (← peekSecond) "missing"
  if ignore then
    advance
    advance
  let _ ← seesContext?
  return .included source ignore

private def readImport : Reading Node := do
  let source ← inner.expr
  needWord "as"
  let id ← nameTarget
  let _ ← seesContext?
  return .importAs source id

private def readFrom : Reading Node := do
  let source ← inner.expr
  needWord "import"
  loop ([] : List String) fun acc => do
    if !acc.isEmpty then needOp ","
    match ← peek with
    | .name _ =>
      if (← seesContext?).isSome then return .inr (.importFrom source acc.reverse)
      let id ← nameTarget
      if id.startsWith "_" then throw .meaningless
      let kept ← if ← takeWord "as" then nameTarget else pure id
      let acc := kept :: acc
      if (← seesContext?).isSome then return .inr (.importFrom source acc.reverse)
      if ← isOp "," then return .inl acc else return .inr (.importFrom source acc.reverse)
    | _ => malformed

/-! ## All tags -/

private def readTag (body : BodyReader) : Reading Node := do
  match ← needName with
  | "for" => readFor body
  | "if" => readIf body
  | "block" => readBlock body
  | "extends" => return .extends (← inner.expr)
  | "print" => readPrint
  | "macro" => readMacro body
  | "include" => readInclude
  | "from" => readFrom
  | "import" => readImport
  | "set" => readSet body
  | "with" => readWith body
  | "autoescape" =>
    let value ← inner.expr
    return .autoescape value (← bodyTo body "endautoescape")
  | "call" => readCall body
  | "filter" => readFilter body
  | _ => malformed

/-- Puts what was gathered in front of the nodes, last first, if there is anything. -/
def flush (parts : List Expr) (acc : List Node) : List Node :=
  if parts.isEmpty then acc else .output parts.reverse :: acc

/-- Gathers a text or a printed expression, or reads a tag, over what was gathered and read, last first; the nodes are
at their end at a tag that begins with an ending word, and where the template ends. -/
def nodesTurn (body : BodyReader) (ends : Ends) :
    List Expr × List Node → Reading ((List Expr × List Node) ⊕ List Node)
  | (parts, acc) => do
    match ← peek with
    | .data s =>
      advance
      return .inl (.data s :: parts, acc)
    | .printStart =>
      advance
      let e ← expressionList
      needPrintEnd
      return .inl (e :: parts, acc)
    | .tagStart =>
      advance
      let acc := flush parts acc
      if ← isWordIn ends then return .inr acc.reverse
      let n ← readTag body
      needTagEnd
      return .inl ([], n :: acc)
    | .done => return .inr (flush parts acc).reverse
    | _ => malformed

/-- The nodes up to an ending word, in tags nested so deeply. -/
def nodesUntil : Nat → BodyReader
  | 0, _ => malformed
  | depth + 1, ends => loop ([], []) (nodesTurn (nodesUntil depth) ends)

/-- The nodes of a template, whether or not they can be meant. -/
def read (source : String) : Except Fault (List Node) := do
  let ts ← tokens source
  let (nodes, _) ← (nodesUntil 200 []).run ts
  return nodes

end Stepwise.Template
