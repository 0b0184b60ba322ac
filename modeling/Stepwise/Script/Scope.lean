import Stepwise.Script.Tree
import Stepwise.Text.Quoted
/-!
# Which names belong to a scope

A function, a loop in brackets or a class body has names of its own: those that something inside
it is given, unless a `global` statement says otherwise. `Scope.check` finds the first place where
the names of a script contradict each other.
-/

namespace Stepwise.Script

/-- Something that no script may contain, found only once a script has been read in full. -/
structure Misplacement where
  line : Nat
  message : String
  deriving DecidableEq, Inhabited

namespace Scope

mutual

/-- Names that an expression gives to something by the way. Loops in brackets pass them on; what
else is inside a function of its own stays there. -/
def namedIn : Expr → List String
  | .named _ id e => id :: namedIn e
  | .unary _ e | .attr _ e _ | .starred _ e | .keyword _ _ e | .doubleStarred e | .yield _ e
  | .yieldFrom _ e | .await _ e => namedIn e
  | .binary _ l r => namedIn l ++ namedIn r
  | .logic _ es | .compare _ es | .display _ es | .joined es => namedInAll es
  | .cond test yes no => namedIn test ++ namedIn yes ++ namedIn no
  | .lambda _ _ defaults keywordDefaults _ => namedInAll defaults ++ namedInAll keywordDefaults
  | .call _ f args => namedIn f ++ namedInAll args
  | .index _ e i => namedIn e ++ namedIn i
  | .slice lo hi step => namedIn lo ++ namedIn hi ++ namedIn step
  | .pair k v => namedIn k ++ namedIn v
  | .comprehension _ _ item clauses => namedIn item ++ namedInAll clauses
  | .clause _ _ source conditions => namedIn source ++ namedInAll conditions
  | .field e _ spec => namedIn e ++ namedIn spec
  | .omitted | .lit _ | .name .. => []

def namedInAll : List Expr → List String
  | [] => []
  | e :: es => namedIn e ++ namedInAll es

end

mutual

/-- Names that a target gives to something. -/
def targetNames : Expr → List String
  | .name _ id => [id]
  | .starred _ e => targetNames e
  | .display _ es => targetNamesOf es
  | .pair _ t => targetNames t
  | .attr _ e _ => namedIn e
  | .index _ e i => namedIn e ++ namedIn i
  | _ => []

def targetNamesOf : List Expr → List String
  | [] => []
  | e :: es => targetNames e ++ targetNamesOf es

end

/-- The names of the loops of a comprehension. -/
def clauseNames : List Expr → List String
  | [] => []
  | .clause _ target _ _ :: cs => targetNames target ++ clauseNames cs
  | _ :: cs => clauseNames cs

private def managersIn : List Expr → List String
  | [] => []
  | .pair e t :: es => namedIn e ++ targetNames t ++ managersIn es
  | e :: es => namedIn e ++ managersIn es

/-- The name under which a module comes in. -/
def Alias.bound (a : Alias) (whole : Bool) : String :=
  match a.as? with
  | some n => n
  | none => if whole then String.ofList (a.name.toList.takeWhile (· ≠ '.')) else a.name

mutual

/-- Names that a statement gives to something in its own scope. -/
def namesIn : Stmt → List String
  | .expr _ e | .ret _ e => namedIn e
  | .assign _ ts v => targetNamesOf ts ++ namedIn v
  | .augment _ t _ v => targetNames t ++ namedIn v
  | .delete _ ts => targetNamesOf ts
  | .ite test yes no => namedIn test ++ namesInAll yes ++ namesInAll no
  | .whileLoop test body otherwise => namedIn test ++ namesInAll body ++ namesInAll otherwise
  | .forLoop _ t source body otherwise =>
    targetNames t ++ namedIn source ++ namesInAll body ++ namesInAll otherwise
  | .attempt _ body handlers otherwise final =>
    namesInAll body ++ namesInAll handlers ++ namesInAll otherwise ++ namesInAll final
  | .handler _ kind id body => namedIn kind ++ id.toList ++ namesInAll body
  | .withBlock _ items body => managersIn items ++ namesInAll body
  | .raise _ e c => namedIn e ++ namedIn c
  | .assert _ e m => namedIn e ++ namedIn m
  | .importModules _ names => names.map (Alias.bound · true)
  | .importFrom _ _ names _ => names.map (Alias.bound · false)
  | .function _ id _ defaults keywordDefaults annotations decorators _ =>
    id :: namedInAll defaults ++ namedInAll keywordDefaults ++ namedInAll annotations ++
      namedInAll decorators
  | .classDef _ id bases decorators _ => id :: namedInAll bases ++ namedInAll decorators
  | .collect _ item => namedIn item
  | .pass | .leave _ | .next _ | .global .. | .refused .. => []

def namesInAll : List Stmt → List String
  | [] => []
  | s :: ss => namesIn s ++ namesInAll ss

end

mutual

/-- Names that a statement declares to belong to the whole script. -/
def globalsIn : Stmt → List String
  | .global _ names => names
  | .ite _ yes no => globalsInAll yes ++ globalsInAll no
  | .whileLoop _ body otherwise | .forLoop _ _ _ body otherwise =>
    globalsInAll body ++ globalsInAll otherwise
  | .attempt _ body handlers otherwise final =>
    globalsInAll body ++ globalsInAll handlers ++ globalsInAll otherwise ++ globalsInAll final
  | .handler _ _ _ body | .withBlock _ _ body => globalsInAll body
  | _ => []

def globalsInAll : List Stmt → List String
  | [] => []
  | s :: ss => globalsIn s ++ globalsInAll ss

end

/-- The names that belong to a body. -/
def bound (body : List Stmt) : List String :=
  let globals := globalsInAll body
  ((namesInAll body).filter fun n => !globals.contains n).eraseDups

/-! ## Printing and yielding -/

mutual

/-- Does the expression yield, or use what is printed? Functions inside it are asked for
themselves. -/
def exprUses (yields : Bool) : Expr → Bool
  | .name _ id => !yields && (id == "print" || id == "printed")
  | .yield _ e => yields || exprUses yields e
  | .yieldFrom _ e => yields || exprUses yields e
  | .unary _ e | .attr _ e _ | .starred _ e | .keyword _ _ e | .doubleStarred e | .await _ e
  | .named _ _ e => exprUses yields e
  | .binary _ l r => exprUses yields l || exprUses yields r
  | .logic _ es | .compare _ es | .display _ es | .joined es => anyUses yields es
  | .cond test yes no => exprUses yields test || exprUses yields yes || exprUses yields no
  | .lambda _ _ defaults keywordDefaults body =>
    anyUses yields defaults || anyUses yields keywordDefaults || (!yields && exprUses yields body)
  | .call _ f args => exprUses yields f || anyUses yields args
  | .index _ e i => exprUses yields e || exprUses yields i
  | .slice lo hi step => exprUses yields lo || exprUses yields hi || exprUses yields step
  | .pair k v => exprUses yields k || exprUses yields v
  | .comprehension _ _ item clauses => exprUses yields item || anyUses yields clauses
  | .clause _ target source conditions =>
    exprUses yields target || exprUses yields source || anyUses yields conditions
  | .field e _ spec => exprUses yields e || exprUses yields spec
  | .omitted | .lit _ => false

def anyUses (yields : Bool) : List Expr → Bool
  | [] => false
  | e :: es => exprUses yields e || anyUses yields es

end

mutual

def stmtUses (yields : Bool) : Stmt → Bool
  | .expr _ e | .ret _ e => exprUses yields e
  | .assign _ ts v => anyUses yields ts || exprUses yields v
  | .augment _ t _ v => exprUses yields t || exprUses yields v
  | .delete _ ts => anyUses yields ts
  | .ite test yes no => exprUses yields test || anyStmtUses yields yes || anyStmtUses yields no
  | .whileLoop test body otherwise =>
    exprUses yields test || anyStmtUses yields body || anyStmtUses yields otherwise
  | .forLoop _ t source body otherwise =>
    exprUses yields t || exprUses yields source || anyStmtUses yields body ||
      anyStmtUses yields otherwise
  | .attempt _ body handlers otherwise final =>
    anyStmtUses yields body || anyStmtUses yields handlers || anyStmtUses yields otherwise ||
      anyStmtUses yields final
  | .handler _ kind _ body => exprUses yields kind || anyStmtUses yields body
  | .withBlock _ items body => anyUses yields items || anyStmtUses yields body
  | .raise _ e c => exprUses yields e || exprUses yields c
  | .assert _ e m => exprUses yields e || exprUses yields m
  | .function _ _ _ defaults keywordDefaults annotations decorators _ =>
    anyUses yields defaults || anyUses yields keywordDefaults || anyUses yields annotations ||
      anyUses yields decorators
  | .classDef _ _ bases decorators body =>
    anyUses yields bases || anyUses yields decorators || (!yields && anyStmtUses yields body)
  | .collect _ item => exprUses yields item
  | .importModules .. | .importFrom .. | .pass | .leave _ | .next _ | .global .. | .refused .. =>
    false

def anyStmtUses (yields : Bool) : List Stmt → Bool
  | [] => false
  | s :: ss => stmtUses yields s || anyStmtUses yields ss

end

/-- Does the body make its function a generator? -/
def yieldsIn (body : List Stmt) : Bool := anyStmtUses true body

/-- Does the function with this body collect what it prints? -/
def printsIn (body : List Stmt) : Bool := anyStmtUses false body

/-! ## Contradictions -/

private inductive Mention where
  | parameter | used | bound
  deriving DecidableEq

private inductive Around where
  | function | cls | loop
  deriving DecidableEq

private structure Layer where
  around : Around
  mentions : List (String × Mention) := []
  loopNames : List String := []
  /-- Inside the source of a loop in brackets. -/
  inSource : Bool := false

/-- Walking through a script, innermost scope first. -/
private abbrev Walk := StateT (List Layer) (Except Misplacement)

private def fault {α : Type} (line : Nat) (message : String) : Walk α := throw ⟨line, message⟩

private def mention (id : String) (m : Mention) : Walk Unit := modify fun ls =>
  match ls with
  | l :: r => { l with mentions := (id, m) :: l.mentions } :: r
  | [] => []

private def inLayer (l : Layer) (act : Walk Unit) : Walk Unit := do
  modify (l :: ·)
  act
  modify List.tail

/-- A name given inside loops in brackets belongs to the scope around them. -/
private def mentionOutside (line : Nat) (id : String) : Walk Unit := do
  let ls ← get
  if ls.head?.any (·.inSource) then
    fault line "assignment expression cannot be used in a comprehension iterable expression"
  let inner := ls.takeWhile (·.around = .loop)
  if inner.any (·.loopNames.contains id) then
    fault line ("assignment expression cannot rebind comprehension iteration variable '" ++ id ++ "'")
  let outer := ls.drop inner.length
  if !inner.isEmpty && outer.head?.any (·.around = .cls) then
    fault line "assignment expression within a comprehension cannot be used in a class body"
  match outer with
  | l :: r => set (inner ++ { l with mentions := (id, .bound) :: l.mentions } :: r)
  | [] => pure ()

private def parameters (line : Nat) (names : List String) : Walk Unit := do
  let _ ← names.foldlM (fun seen n => do
    if seen.contains n then
      fault line ("duplicate argument '" ++ n ++ "' in function definition")
    return n :: seen) []

private def declareGlobal (line : Nat) (id : String) : Walk Unit := do
  let ms := ((← get).head?.map (·.mentions)).getD []
  let has (m : Mention) : Bool := ms.contains (id, m)
  let name := "name '" ++ id ++ "' is "
  if has .parameter then fault line (name ++ "parameter and global")
  else if has .used then fault line (name ++ "used prior to global declaration")
  else if has .bound then fault line (name ++ "assigned to before global declaration")

private def shapeName : Shape → String
  | .list => "list comprehension" | .set => "set comprehension" | .dict => "dict comprehension"
  | _ => "generator expression"

private def setSource (b : Bool) : Walk Unit := modify fun ls =>
  match ls with
  | l :: r => { l with inSource := b } :: r
  | [] => []

/-- A loop in brackets: its first source belongs outside. -/
private def loopLayer (line : Nat) (shape : Shape) (clauses : List Expr) (yields : Bool)
    (first : Walk Unit) (rest : Walk Unit) : Walk Unit := do
  let before := (← get).head?.any (·.inSource)
  setSource true
  first
  setSource before
  inLayer { around := .loop, loopNames := clauseNames clauses, inSource := before } rest
  if yields then fault line ("'yield' inside " ++ shapeName shape)

mutual

private def walk : Expr → Walk Unit
  | .omitted | .lit _ => pure ()
  | .name _ id => mention id .used
  | .unary _ e | .attr _ e _ | .starred _ e | .keyword _ _ e | .doubleStarred e | .yield _ e
  | .yieldFrom _ e | .await _ e => walk e
  | .binary _ l r => do walk l; walk r
  | .logic _ es | .compare _ es | .display _ es | .joined es => walkAll es
  | .cond test yes no => do walk test; walk yes; walk no
  | .lambda line sig defaults keywordDefaults body => do
    walkAll defaults
    walkAll keywordDefaults
    parameters line sig.names
    inLayer { around := .function, mentions := sig.names.map (·, .parameter) } (walk body)
  | .call _ f args => do walk f; walkAll args
  | .index _ e i => do walk e; walk i
  | .slice lo hi step => do walk lo; walk hi; walk step
  | .pair k v => do walk k; walk v
  | .comprehension line shape item clauses => do
    let yields := exprUses true item || anyUses true (clauses.drop 1)
    loopLayer line shape clauses yields (walkFirst clauses) (do
      walkClauses true clauses
      walk item)
  | .clause _ target source conditions => do
    walkTarget target
    walk source
    walkAll conditions
  | .named line id e => do
    mentionOutside line id
    walk e
  | .field e _ spec => do walk e; walk spec

private def walkAll : List Expr → Walk Unit
  | [] => pure ()
  | e :: es => do walk e; walkAll es

private def walkFirst : List Expr → Walk Unit
  | .clause _ _ source _ :: _ => walk source
  | _ => pure ()

private def walkClauses (first : Bool) : List Expr → Walk Unit
  | [] => pure ()
  | .clause _ target source conditions :: cs => do
    walkTarget target
    if !first then
      setSource true
      walk source
      setSource false
    walkAll conditions
    walkClauses false cs
  | e :: cs => do walk e; walkClauses false cs

private def walkTarget : Expr → Walk Unit
  | .name _ id => mention id .bound
  | .starred _ e => walkTarget e
  | .display _ es => walkTargets es
  | .attr _ e _ => walk e
  | .index _ e i => do walk e; walk i
  | _ => pure ()

private def walkTargets : List Expr → Walk Unit
  | [] => pure ()
  | e :: es => do walkTarget e; walkTargets es

end

private def walkManagers : List Expr → Walk Unit
  | [] => pure ()
  | .pair e t :: es => do walk e; walkTarget t; walkManagers es
  | e :: es => do walk e; walkManagers es

mutual

private def walkStmt : Stmt → Walk Unit
  | .expr _ e | .ret _ e => walk e
  | .assign _ ts v => do walkTargets ts; walk v
  | .augment _ t _ v => do walkTarget t; walk t; walk v
  | .delete _ ts => walkTargets ts
  | .ite test yes no => do walk test; walkStmts yes; walkStmts no
  | .whileLoop test body otherwise => do walk test; walkStmts body; walkStmts otherwise
  | .forLoop _ t source body otherwise => do
    walkTarget t
    walk source
    walkStmts body
    walkStmts otherwise
  | .attempt _ body handlers otherwise final => do
    walkStmts body
    walkStmts otherwise
    walkStmts handlers
    walkStmts final
  | .handler _ kind id body => do
    walk kind
    match id with
    | some n => mention n .bound
    | none => pure ()
    walkStmts body
  | .withBlock _ items body => do walkManagers items; walkStmts body
  | .raise _ e c => do walk e; walk c
  | .assert _ e m => do walk e; walk m
  | .importModules _ names => names.forM fun a => mention (Alias.bound a true) .bound
  | .importFrom _ _ names _ => names.forM fun a => mention (Alias.bound a false) .bound
  | .global line names => names.forM (declareGlobal line)
  | .function line id sig defaults keywordDefaults annotations decorators body => do
    mention id .bound
    walkAll defaults
    walkAll keywordDefaults
    walkAll annotations
    walkAll decorators
    parameters line sig.names
    inLayer { around := .function, mentions := sig.names.map (·, .parameter) } (walkStmts body)
  | .classDef _ id bases decorators body => do
    mention id .bound
    walkAll bases
    walkAll decorators
    inLayer { around := .cls } (walkStmts body)
  | .collect _ item => walk item
  | .pass | .leave _ | .next _ | .refused .. => pure ()

private def walkStmts : List Stmt → Walk Unit
  | [] => pure ()
  | s :: ss => do walkStmt s; walkStmts ss

end

/-- The first contradiction among the names of a script. -/
def check (script : List Stmt) : Option Misplacement :=
  match walkStmts script [{ around := .function }] with
  | .ok _ => none
  | .error m => some m

end Scope

end Stepwise.Script
