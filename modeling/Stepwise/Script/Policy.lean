import Stepwise.Script.Tree
import Stepwise.Text.Cut
/-!
# What scripts may say

A script is refused before it runs if its tree holds a name or a construct that could reach behind
the objects it is given: names that begin with an underscore, attributes that lead to frames and
code, and some kinds of statements. `Policy.violations` lists all offences of a tree in reading
order; a tree without any may run.
-/

namespace Stepwise.Script

namespace Policy

inductive Offence where
  | hiddenName (name : String)
  | rolesName (name : String)
  | reservedName (name : String)
  | hiddenAttribute (name : String)
  | rolesAttribute (name : String)
  | inspection (name : String)
  | executes (what : String)
  | starImport
  | augmentedAttribute
  | augmentedItem
  | metaclass
  | statement (kind : String)
  deriving DecidableEq, Inhabited

structure Violation where
  line : Nat
  offence : Offence
  deriving DecidableEq, Inhabited

def Offence.message : Offence → String
  | .hiddenName n => "\"" ++ n ++ "\" is an invalid variable name because it starts with \"_\""
  | .rolesName n => "\"" ++ n ++ "\" is an invalid variable name because it ends with \"__roles__\"."
  | .reservedName n => "\"" ++ n ++ "\" is a reserved name."
  | .hiddenAttribute n => "\"" ++ n ++ "\" is an invalid attribute name because it starts with \"_\"."
  | .rolesAttribute n =>
    "\"" ++ n ++ "\" is an invalid attribute name because it ends with \"__roles__\"."
  | .inspection n =>
    "\"" ++ n ++ "\" is a restricted name, that is forbidden to access in RestrictedPython."
  | .executes w => w ++ " calls are not allowed."
  | .starImport => "\"*\" imports are not allowed."
  | .augmentedAttribute => "Augmented assignment of attributes is not allowed."
  | .augmentedItem => "Augmented assignment of object items and slices is not allowed."
  | .metaclass => "The keyword argument \"metaclass\" is not allowed."
  | .statement k => k ++ " statements are not allowed."

def Violation.message (v : Violation) : String :=
  "Line " ++ toString v.line ++ ": " ++ v.offence.message

/-- Attributes of tracebacks, frames, code, generators and coroutines. -/
def inspectionAttributes : List String :=
  ["tb_frame", "tb_next", "f_back", "f_builtins", "f_code", "f_globals", "f_locals", "f_trace",
    "co_code", "gi_frame", "gi_code", "gi_yieldfrom", "cr_await", "cr_frame", "cr_code", "cr_origin",
    "ag_await", "ag_frame", "ag_code"]

/-- Names that no script may give to anything of its own. -/
def reservedNames : List String := ["print", "printed", "builtins", "breakpoint"]

/-- Methods with underscores that classes may define. -/
def allowedMethods : List String :=
  ["__init__", "__contains__", "__lt__", "__le__", "__eq__", "__ne__", "__gt__", "__ge__"]

/-- Does the name begin with an underscore, and is it more than that? -/
def isHidden (name : String) : Bool := Text.startsWith ['_'] name.toList && name != "_"

private def endsWithRoles (name : String) : Bool :=
  Text.endsWith "__roles__".toList name.toList

/-- Offences of giving a name to something. -/
def nameOffences (name : String) : List Offence :=
  if isHidden name then [.hiddenName name]
  else if endsWithRoles name then [.rolesName name]
  else if reservedNames.contains name then [.reservedName name]
  else []

/-- Offences of reading a name. The names around printing are read freely. -/
def readOffences (name : String) : List Offence :=
  if name == "print" || name == "printed" then [] else nameOffences name

def attributeOffences (name : String) : List Offence :=
  (if isHidden name then [.hiddenAttribute name] else []) ++
  (if endsWithRoles name then [.rolesAttribute name] else []) ++
  (if inspectionAttributes.contains name then [.inspection name] else [])

private def at_ (line : Nat) (os : List Offence) : List Violation := os.map (⟨line, ·⟩)

private def parameterOffences (line : Nat) (s : Signature) : List Violation :=
  at_ line ((s.positional ++ s.rest.toList ++ s.keywordRest.toList ++ s.keywordOnly).flatMap
    nameOffences)

private def importOffences (line : Nat) (names : List Alias) : List Violation :=
  at_ line (names.flatMap fun a =>
    (if a.name.toList.contains '*' then [.starImport] else []) ++ nameOffences a.name ++
      (a.as?.map nameOffences).getD [])

private def callOffences (line : Nat) : Expr → List Violation
  | .name _ "exec" => at_ line [.executes "Exec"]
  | .name _ "eval" => at_ line [.executes "Eval"]
  | _ => []

mutual

/-- Offences of an expression. One that is `bound` is assigned to or deleted: names in it are given, not read. -/
def ofExpr (bound : Bool) : Expr → List Violation
  | .omitted | .lit _ => []
  | .name line id => at_ line (if bound then nameOffences id else readOffences id)
  | .unary _ e => ofExpr false e
  | .binary _ l r => ofExpr false l ++ ofExpr false r
  | .logic _ es => ofExprs false es
  | .compare _ es => ofExprs false es
  | .cond test yes no => ofExpr false test ++ ofExpr false yes ++ ofExpr false no
  | .lambda line sig defaults keywordDefaults body =>
    parameterOffences line sig ++ ofExprs false keywordDefaults ++ ofExprs false defaults ++ ofExpr false body
  | .call line f args =>
    callOffences line f ++ ofExpr false f ++ ofArguments false args ++ ofArguments true args
  | .attr line e id => at_ line (attributeOffences id) ++ ofExpr false e
  | .index _ e i => ofExpr false e ++ ofExpr false i
  | .slice lo hi step => ofExpr false lo ++ ofExpr false hi ++ ofExpr false step
  | .starred _ e => ofExpr bound e
  | .keyword _ _ e => ofExpr false e
  | .doubleStarred e => ofExpr false e
  | .display shape es => if shape = .dict then ofKeys es ++ ofEntries es else ofExprs bound es
  | .pair k v => ofExpr false k ++ ofExpr false v
  | .comprehension _ _ item clauses => ofExpr false item ++ ofExprs false clauses
  | .clause _ target source conditions => ofExpr true target ++ ofExpr false source ++ ofExprs false conditions
  | .named line id e => at_ line (nameOffences id) ++ ofExpr false e
  | .yield _ e => ofExpr false e
  | .yieldFrom _ e => ofExpr false e
  | .await line _ => at_ line [.statement "Await"]
  | .joined parts => ofExprs false parts
  | .field e _ spec => ofExpr false e ++ ofExpr false spec

def ofExprs (bound : Bool) : List Expr → List Violation
  | [] => []
  | e :: es => ofExpr bound e ++ ofExprs bound es

/-- Arguments by position come before arguments by name. -/
def ofArguments (named : Bool) : List Expr → List Violation
  | [] => []
  | .keyword _ _ e :: es => (if named then ofExpr false e else []) ++ ofArguments named es
  | .doubleStarred e :: es => (if named then ofExpr false e else []) ++ ofArguments named es
  | e :: es => (if named then [] else ofExpr false e) ++ ofArguments named es

/-- The keys of a dictionary come before its values. -/
def ofKeys : List Expr → List Violation
  | [] => []
  | .pair k _ :: es => ofExpr false k ++ ofKeys es
  | _ :: es => ofKeys es

def ofEntries : List Expr → List Violation
  | [] => []
  | .pair _ v :: es => ofExpr false v ++ ofEntries es
  | e :: es => ofExpr false e ++ ofEntries es

end

/-- Managers and their targets. -/
def ofManagers : List Expr → List Violation
  | [] => []
  | .pair e t :: es => ofExpr false e ++ ofExpr true t ++ ofManagers es
  | e :: es => ofExpr false e ++ ofManagers es

private def augmentOffences (line : Nat) : Expr → List Violation
  | .attr .. => at_ line [.augmentedAttribute]
  | .index .. => at_ line [.augmentedItem]
  | _ => []

/-- Methods with underscores may be defined, but not outside everything else. -/
private def functionOffences (line : Nat) (top : Bool) (id : String) : List Violation :=
  if !top && allowedMethods.contains id then [] else at_ line (nameOffences id)

private def isMetaclass : Expr → Bool
  | .keyword _ id _ => id == "metaclass"
  | _ => false

mutual

/-- Offences of a statement; `top` says that nothing stands around it. -/
def ofStmt (top : Bool) : Stmt → List Violation
  | .expr _ e => ofExpr false e
  | .assign _ targets value => ofExprs true targets ++ ofExpr false value
  | .augment line target _ value =>
    ofExpr true target ++ ofExpr false value ++ augmentOffences line target
  | .ret _ e => ofExpr false e
  | .delete _ targets => ofExprs true targets
  | .pass | .leave _ | .next _ | .global .. => []
  | .ite test yes no => ofExpr false test ++ ofStmts false yes ++ ofStmts false no
  | .whileLoop test body otherwise =>
    ofExpr false test ++ ofStmts false body ++ ofStmts false otherwise
  | .forLoop _ target source body otherwise =>
    ofExpr true target ++ ofExpr false source ++ ofStmts false body ++ ofStmts false otherwise
  | .attempt _ body handlers otherwise final =>
    ofStmts false body ++ ofStmts false handlers ++ ofStmts false otherwise ++ ofStmts false final
  | .handler line kind id body =>
    ofExpr false kind ++ ofStmts false body ++ at_ line ((id.map nameOffences).getD [])
  | .withBlock _ items body => ofManagers items ++ ofStmts false body
  | .raise _ error cause => ofExpr false error ++ ofExpr false cause
  | .assert _ test message => ofExpr false test ++ ofExpr false message
  | .importModules line names => importOffences line names
  | .importFrom line _ names _ => importOffences line names
  | .function line id sig defaults keywordDefaults annotations decorators body =>
    functionOffences line top id ++ parameterOffences line sig ++ ofExprs false annotations ++
      ofExprs false keywordDefaults ++ ofExprs false defaults ++ ofStmts false body ++ ofExprs false decorators
  | .classDef line id bases decorators body =>
    at_ line (nameOffences id) ++ ofArguments false bases ++ ofArguments true bases ++
      ofStmts false body ++ ofExprs false decorators ++
      (if bases.any isMetaclass then at_ line [.metaclass] else [])
  | .refused line kind => at_ line [.statement kind]
  | .collect _ item => ofExpr false item

def ofStmts (top : Bool) : List Stmt → List Violation
  | [] => []
  | s :: ss => ofStmt top s ++ ofStmts top ss

end

/-- All offences of a script, in reading order. -/
def violations (script : List Stmt) : List Violation := ofStmts true script

end Policy

end Stepwise.Script
