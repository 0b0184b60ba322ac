import Stepwise.Script.Scope
/-!
# Statements and stars out of place

Some statements mean something only inside others: `break` and `continue` inside a loop, `return`
and `yield` inside a function, a star inside a display, a call or a target. `misplacement?` finds
the first thing in a script that stands where it means nothing.
-/

namespace Stepwise.Script

namespace Placement

structure Here where
  inFunction : Bool := true
  inLoop : Bool := false
  /-- Loops, guarded blocks and blocks with managers around. -/
  nested : Nat := 0

abbrev Check := Except Misplacement Unit

def fault (line : Nat) (message : String) : Check := .error ⟨line, message⟩

/-- How many blocks may stand inside each other. -/
def maxNested : Nat := 20

def Here.enter (h : Here) (line : Nat) (loop : Bool) : Except Misplacement Here :=
  if h.nested ≥ maxNested then .error ⟨line, "too many statically nested blocks"⟩
  else .ok { h with inLoop := h.inLoop || loop, nested := h.nested + 1 }

def repeatedKeyword : List Expr → Check
  | [] => .ok ()
  | .keyword _ id _ :: es =>
    match es.findSome? (fun e => match e with
      | .keyword l id' _ => if id' == id then some l else none
      | _ => none) with
    | some l => fault l ("keyword argument repeated: " ++ id)
    | none => repeatedKeyword es
  | _ :: es => repeatedKeyword es

def starMessage : String := "can't use starred expression here"

mutual

def ofExpr (h : Here) : Expr → Check
  | .omitted | .lit _ | .name .. => .ok ()
  | .unary _ e | .attr _ e _ | .named _ _ e | .keyword _ _ e | .doubleStarred e | .await _ e => ofExpr h e
  | .starred line _ => fault line starMessage
  | .binary _ l r => do ofExpr h l; ofExpr h r
  | .logic _ es | .compare _ es | .joined es => ofExprs h es
  | .display _ es => ofElements h es
  | .cond test yes no => do ofExpr h test; ofExpr h yes; ofExpr h no
  | .lambda _ _ defaults keywordDefaults body => do
    ofExprs h defaults
    ofExprs h keywordDefaults
    ofExpr {} body
  | .call _ f args => do
    repeatedKeyword args
    ofExpr h f
    ofElements h args
  | .index _ e i => do ofExpr h e; ofExpr h i
  | .slice lo hi step => do ofExpr h lo; ofExpr h hi; ofExpr h step
  | .pair k v => do ofExpr h k; ofExpr h v
  | .comprehension line shape item clauses => do
    ofClauses line shape h clauses
    ofExpr h item
  | .clause _ target source conditions => do
    ofExpr h source
    ofTarget h target
    ofExprs h conditions
  | .yield line e | .yieldFrom line e => do
    if !h.inFunction then fault line "'yield' outside function"
    ofExpr h e
  | .field e _ spec => do ofExpr h e; ofExpr h spec

def ofExprs (h : Here) : List Expr → Check
  | [] => .ok ()
  | e :: es => do ofExpr h e; ofExprs h es

/-- Elements, among which stars are in place. -/
def ofElements (h : Here) : List Expr → Check
  | [] => .ok ()
  | .starred _ e :: es => do ofExpr h e; ofElements h es
  | e :: es => do ofExpr h e; ofElements h es

def ofClauses (line : Nat) (shape : Shape) (h : Here) : List Expr → Check
  | [] => .ok ()
  | .clause concurrent target source conditions :: cs => do
    if concurrent && shape ≠ .generator then
      fault line "asynchronous comprehension outside of an asynchronous function"
    ofExpr h source
    ofTarget h target
    ofExprs h conditions
    ofClauses line shape h cs
  | e :: cs => do ofExpr h e; ofClauses line shape h cs

def ofTarget (h : Here) : Expr → Check
  | .starred line _ => fault line "starred assignment target must be in a list or tuple"
  | .display _ es => ofTargets h false es
  | .attr _ e _ => ofExpr h e
  | .index _ e i => do ofExpr h e; ofExpr h i
  | _ => .ok ()

/-- Targets inside a display, of which one may have a star. -/
def ofTargets (h : Here) (starred : Bool) : List Expr → Check
  | [] => .ok ()
  | .starred line e :: es => do
    if starred then fault line "multiple starred expressions in assignment"
    ofTarget h e
    ofTargets h true es
  | e :: es => do ofTarget h e; ofTargets h starred es

end

def ofEach (h : Here) : List Expr → Check
  | [] => .ok ()
  | e :: es => do ofTarget h e; ofEach h es

def ofManagers (h : Here) : List Expr → Check
  | [] => .ok ()
  | .pair e t :: es => do ofExpr h e; ofTarget h t; ofManagers h es
  | e :: es => do ofExpr h e; ofManagers h es

def isOmitted : Expr → Bool
  | .omitted => true
  | _ => false

mutual

def ofStmt (h : Here) : Stmt → Check
  | .expr _ e | .collect _ e => ofExpr h e
  | .assign _ ts v => do ofExpr h v; ofEach h ts
  | .augment _ t _ v => do ofTarget h t; ofElements h [v]
  | .ret line e => do
    if !h.inFunction then fault line "'return' outside function"
    ofExpr h e
  | .delete _ ts => ofEach h ts
  | .leave line => if h.inLoop then .ok () else fault line "'break' outside loop"
  | .next line => if h.inLoop then .ok () else fault line "'continue' not properly in loop"
  | .ite test yes no => do ofExpr h test; ofStmts h yes; ofStmts h no
  | .whileLoop test body otherwise => do
    ofExpr h test
    ofStmts (← h.enter 0 true) body
    ofStmts h otherwise
  | .forLoop line t source body otherwise => do
    ofExpr h source
    let inner ← h.enter line true
    ofTarget inner t
    ofStmts inner body
    ofStmts h otherwise
  | .attempt line body handlers otherwise final => do
    let inner ← h.enter line false
    ofStmts inner body
    ofStmts inner handlers
    ofStmts h otherwise
    ofStmts h final
  | .handler _ kind _ body => do ofExpr h kind; ofStmts h body
  | .withBlock line items body => do
    ofManagers h items
    ofStmts (← h.enter line false) body
  | .raise _ e c => do ofExpr h e; ofExpr h c
  | .assert _ e m => do ofExpr h e; ofExpr h m
  | .importFrom line module _ _ =>
    if module == "__future__" then
      fault line "from __future__ imports must occur at the beginning of the file"
    else .ok ()
  | .function _ _ _ defaults keywordDefaults annotations decorators body => do
    ofExprs h decorators
    ofExprs h defaults
    ofExprs h keywordDefaults
    ofElements h annotations
    ofStmts {} body
  | .classDef _ _ bases decorators body => do
    ofExprs h decorators
    ofStmts { inFunction := false } body
    ofElements h bases
  | .importModules .. | .pass | .global .. | .refused .. => .ok ()

def ofStmts (h : Here) : List Stmt → Check
  | [] => .ok ()
  | .handler line .omitted _ body :: s :: ss => do
    match s with
    | .handler .. => fault line "default 'except:' must be last"
    | _ => .ok ()
    ofStmts h body
    ofStmt h s
    ofStmts h ss
  | s :: ss => do ofStmt h s; ofStmts h ss

end

/-- The first thing out of place in the body of a function. -/
def check (script : List Stmt) : Option Misplacement :=
  match ofStmts {} script with
  | .ok _ => none
  | .error m => some m

end Placement

/-- The first thing in a script that makes no sense where it stands: names come before statements. -/
def misplacement? (script : List Stmt) : Option Misplacement :=
  (Scope.check script).orElse fun _ => Placement.check script

end Stepwise.Script
