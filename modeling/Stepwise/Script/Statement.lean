import Stepwise.Script.Expression
/-!
# Reading statements

Statements nest in blocks, so the readers of compound statements are given the reader of blocks
one level further in. `Script.read` is the whole way from a text to its statements.
-/

namespace Stepwise.Script

open Reading

/-! ## Simple statements -/

def value (k : Inner) : Reading Expr := do
  if ← isWord "yield" then yieldExpression k else starExpressions k

def isYield : Expr → Bool
  | .yield .. | .yieldFrom .. => true
  | _ => false

/-- Statements that begin with an expression: assignments of all kinds, and the expression alone. -/
def assignment (k : Inner) : Reading Stmt := do
  let l ← line
  let first ← value k
  match (← peek).token with
  | .op ":" =>
    match first with
    | .name .. | .attr .. | .index .. =>
      advance
      let _ ← k.expr
      if ← takeOp "=" then
        let _ ← value k
      return .refused l "AnnAssign"
    | _ => stray
  | .op "=" =>
    loop ([first] : List Expr) fun es => do
      if ← takeOp "=" then
        match es with
        | e :: _ => if !e.isTarget then failAt l
        | [] => pure ()
        return .inl ((← value k) :: es)
      else
        match es with
        | v :: ts => return .inr (.assign l ts.reverse v)
        | [] => stray
  | .op s =>
    match augmentSign? s with
    | some op =>
      match first with
      | .name .. | .attr .. | .index .. =>
        advance
        return .augment l first op (← value k)
      | _ => failAt l
    | none => return .expr l first
  | _ => return .expr l first

private def dottedName : Reading String := do
  let first ← needName
  loop first fun s => do
    if ← takeOp "." then return .inl (s ++ "." ++ (← needName)) else return .inr s

private def importedName (name : Reading String) : Reading Alias := do
  let n ← name
  if ← takeWord "as" then return ⟨n, some (← needName)⟩ else return ⟨n, none⟩

private def readImport : Reading Stmt := do
  let l ← line
  advance
  loop ([] : List Alias) fun acc => do
    let acc := (← importedName dottedName) :: acc
    if ← takeOp "," then return .inl acc else return .inr (.importModules l acc.reverse)

private def readFrom : Reading Stmt := do
  let l ← line
  advance
  let level ← loop 0 fun n => do
    if ← takeOp "." then return .inl (n + 1)
    else if ← takeOp "..." then return .inl (n + 3)
    else return .inr n
  let module ← if level > 0 && (← isWord "import") then pure "" else dottedName
  needWord "import"
  if ← takeOp "*" then return .importFrom l module [⟨"*", none⟩] level
  else if ← takeOp "(" then
    let (names, _) ← commaList (isOp ")") (importedName needName)
    if names.isEmpty then stray
    needOp ")"
    return .importFrom l module names level
  else
    let names ← loop ([] : List Alias) fun acc => do
      let acc := (← importedName needName) :: acc
      if ← takeOp "," then return .inl acc else return .inr acc.reverse
    return .importFrom l module names level

private def nameList : Reading (List String) :=
  loop ([] : List String) fun acc => do
    let acc := (← needName) :: acc
    if ← takeOp "," then return .inl acc else return .inr acc.reverse

def endsStatement : Reading Bool := do
  match (← peek).token with
  | .newline | .done => return true
  | .op s => return s == ";"
  | _ => return false

private def readDelete (k : Inner) : Reading Stmt := do
  let l ← line
  advance
  let (es, _) ← commaList endsStatement (operand k)
  if es.isEmpty then stray
  if !es.all Expr.isDeletable then failAt l
  return .delete l es

def simple (k : Inner) : Reading Stmt := do
  let l ← line
  match (← peek).token with
  | .name "pass" => advance; return .pass
  | .name "break" => advance; return .leave l
  | .name "continue" => advance; return .next l
  | .name "return" =>
    advance
    return .ret l (← if ← endsStatement then pure .omitted else starExpressions k)
  | .name "raise" =>
    advance
    if ← endsStatement then return .raise l .omitted .omitted
    let e ← k.expr
    return .raise l e (← if ← takeWord "from" then k.expr else pure .omitted)
  | .name "assert" =>
    advance
    let e ← k.expr
    return .assert l e (← if ← takeOp "," then k.expr else pure .omitted)
  | .name "global" =>
    advance
    return .global l (← nameList)
  | .name "nonlocal" =>
    advance
    let _ ← nameList
    return .refused l "Nonlocal"
  | .name "del" => readDelete k
  | .name "import" => readImport
  | .name "from" => readFrom
  | _ => assignment k

/-- The statements of one line, which is taken to its end. -/
def simpleLine (k : Inner) : Reading (List Stmt) :=
  loop ([] : List Stmt) fun acc => do
    let acc := (← simple k) :: acc
    if ← takeOp ";" then
      if ← isNewline then
        advance
        return .inr acc.reverse
      else return .inl acc
    else if ← isNewline then
      advance
      return .inr acc.reverse
    else stray

/-! ## Compound statements -/

/-- Behind the colon: a line of statements, or lines further in. -/
def block (k : Inner) (statements : Reading (List Stmt)) : Reading (List Stmt) := do
  needOp ":"
  if ← isNewline then
    advance
    match (← peek).token with
    | .indent =>
      advance
      let ss ← statements
      match (← peek).token with
      | .dedent =>
        advance
        return ss
      | .done => return ss
      | _ => stray
    | .stuck _ => stray
    | _ => unindented
  else simpleLine k

structure Around where
  k : Inner
  block : Reading (List Stmt)

private def conditional (a : Around) : Nat → Reading Stmt
  | 0 => stray
  | n + 1 => do
    advance
    let test ← namedExpression a.k
    let yes ← a.block
    if ← isWord "elif" then return .ite test yes [← conditional a n]
    else if ← takeWord "else" then return .ite test yes (← a.block)
    else return .ite test yes []

private def otherwise (a : Around) : Reading (List Stmt) := do
  if ← takeWord "else" then a.block else return []

private def whileLoop (a : Around) : Reading Stmt := do
  advance
  let test ← namedExpression a.k
  let body ← a.block
  return .whileLoop test body (← otherwise a)

private def forLoop (a : Around) : Reading Stmt := do
  let l ← line
  advance
  let t ← targets a.k
  needWord "in"
  let source ← starExpressions a.k
  let body ← a.block
  return .forLoop l t source body (← otherwise a)

private def handlers (a : Around) : Reading (List Stmt × Bool) :=
  loop (([], false) : List Stmt × Bool) fun (acc, grouped) => do
    let l ← line
    if ← takeWord "except" then
      let star ← takeOp "*"
      if star != grouped && !acc.isEmpty then stray
      if ← isOp ":" then
        if star then stray
        return .inl (.handler l .omitted none (← a.block) :: acc, star)
      let kind ← a.k.expr
      let id ← if ← takeWord "as" then some <$> needName else pure none
      if !(← isOp ":") then stray
      return .inl (.handler l kind id (← a.block) :: acc, star)
    else return .inr (acc.reverse, grouped)

private def guarded (a : Around) : Reading Stmt := do
  let l ← line
  advance
  let body ← a.block
  let (hs, grouped) ← handlers a
  let calm ← if hs.isEmpty then pure [] else otherwise a
  let final ← if ← takeWord "finally" then a.block
    else if hs.isEmpty then stray
    else pure []
  if grouped then return .refused l "TryStar"
  else return .attempt l body hs calm final

private def manager (k : Inner) : Reading Expr := do
  let e ← k.expr
  if ← takeWord "as" then
    let l ← line
    let t ← element k (operand k)
    if !t.isTarget then failAt l
    return .pair e t
  else return .pair e .omitted

private def withBlock (a : Around) : Reading Stmt := do
  let l ← line
  advance
  let inBrackets : Reading (List Expr) := do
    needOp "("
    let (ms, _) ← commaList (isOp ")") (manager a.k)
    if ms.isEmpty then stray
    needOp ")"
    if !(← isOp ":") then stray
    return ms
  let ms ← match ← attempt inBrackets with
    | some ms => pure ms
    | none =>
      loop ([] : List Expr) fun acc => do
        let acc := (← manager a.k) :: acc
        if ← takeOp "," then return .inl acc else return .inr acc.reverse
  return .withBlock l ms (← a.block)

private def function (a : Around) (decorators : List Expr) : Reading Stmt := do
  let l ← line
  advance
  let id ← needName
  needOp "("
  let p ← parameters a.k true ")"
  needOp ")"
  let result ← if ← takeOp "->" then (fun e => [e]) <$> a.k.expr else pure []
  let body ← a.block
  return .function l id p.sig p.defaults p.keywordDefaults (p.annotations ++ result) decorators body

private def classDef (a : Around) (decorators : List Expr) : Reading Stmt := do
  let l ← line
  advance
  let id ← needName
  let bases ← if ← takeOp "(" then arguments a.k else pure []
  return .classDef l id bases decorators (← a.block)

/-- A statement that tells cases apart by their shape. Shapes are passed over, since no script may
hold such a statement. -/
private def cases (a : Around) : Reading Stmt := do
  let l ← line
  advance
  let _ ← starExpressions a.k
  needOp ":"
  if !(← isNewline) then stray
  advance
  match (← peek).token with
  | .indent => advance
  | _ => stray
  if !(← isWord "case") then stray
  loop () fun _ => do
    if ← takeWord "case" then
      let depth := (← peek).depth
      loop () fun _ => do
        let next ← peek
        match next.token with
        | .op ":" => if next.depth = depth then return .inr () else advance; return .inl ()
        | .newline | .done | .stuck _ => stray
        | _ => advance; return .inl ()
      let _ ← a.block
      return .inl ()
    else
      match (← peek).token with
      | .dedent => advance; return .inr ()
      | .done => return .inr ()
      | _ => stray
  return .refused l "Match"

private def asynchronous (a : Around) : Reading Stmt := do
  let l ← line
  match ← peekSecond with
  | .name "def" =>
    advance
    let _ ← function a []
    return .refused l "AsyncFunctionDef"
  | .name "for" =>
    advance
    let _ ← forLoop a
    return .refused l "AsyncFor"
  | .name "with" =>
    advance
    let _ ← withBlock a
    return .refused l "AsyncWith"
  | _ =>
    advance
    stray

private def readDecorated (a : Around) : Reading Stmt := do
  let ds ← loop ([] : List Expr) fun acc => do
    if ← takeOp "@" then
      let d ← namedExpression a.k
      if !(← isNewline) then stray
      advance
      return .inl (d :: acc)
    else return .inr acc.reverse
  if ← isWord "class" then classDef a ds
  else if ← isWord "def" then function a ds
  else if ← isWord "async" then asynchronous a
  else stray

def statement (a : Around) : Reading (List Stmt) := do
  let one (r : Reading Stmt) : Reading (List Stmt) := do return [← r]
  match (← peek).token with
  | .name "if" => one (conditional a ((← get).length + 1))
  | .name "while" => one (whileLoop a)
  | .name "for" => one (forLoop a)
  | .name "try" => one (guarded a)
  | .name "with" => one (withBlock a)
  | .name "def" => one (function a [])
  | .name "class" => one (classDef a [])
  | .name "async" => one (asynchronous a)
  | .op "@" => one (readDecorated a)
  | .name "match" =>
    match ← attempt (cases a) with
    | some s => return [s]
    | none => simpleLine a.k
  | _ => simpleLine a.k

def atBlockEnd : Reading Bool := do
  match (← peek).token with
  | .dedent | .done => return true
  | _ => return false

/-- Statements up to the end of the block, nested at most so deeply. -/
def statements (k : Inner) : Nat → Reading (List Stmt)
  | 0 => stray
  | n + 1 =>
    loop ([] : List Stmt) fun acc => do
      if ← atBlockEnd then return .inr acc
      return .inl (acc ++ (← statement ⟨k, block k (statements k n)⟩))

/-- Reads a text as a script. -/
def read (text : List Char) : Except Fault (List Stmt) := do
  let l ← Lexemes.ofChars 1 text
  let n := text.length + 8
  let whole : Reading (List Stmt) := do
    let ss ← statements (expressions n) 110
    match (← peek).token with
    | .done => return ss
    | _ => stray
  match whole l.all with
  | .ok (ss, _) => return ss
  | .error f =>
    -- a bracket that is never closed is to blame for faults on later lines
    match l.unclosed with
    | some n => throw (if n < f.reached then ⟨.malformed, n, n⟩ else f)
    | none => throw f

end Stepwise.Script
