import Stepwise.Value.Operator
/-!
# The syntax tree of scripts

Expressions nest only in lists of expressions, so that the parts of a call, a dictionary or a
comprehension are expressions of their own kind (`starred`, `keyword`, `pair`, `clause`, …), and
a part that is left out is `omitted`. Lines are kept where a refusal has to name one.
-/

namespace Stepwise.Script

inductive CompareOp where
  | eq | ne | lt | le | gt | ge | same | notSame | member | notMember
  deriving DecidableEq, Inhabited

inductive Literal where
  | null
  | bool (b : Bool)
  | int (n : Int)
  | float (x : Float)
  | imaginary (x : Float)
  | str (s : String)
  | bytes (b : List UInt8)
  | ellipsis
  deriving Inhabited

/-- The kinds of displays and comprehensions. -/
inductive Shape where
  | list | tuple | set | dict | generator
  deriving DecidableEq, Inhabited

/-- The parameters of a function by kind; their defaults stand beside in the tree. -/
structure Signature where
  positionalOnly : List String := []
  positional : List String := []
  rest : Option String := none
  keywordOnly : List String := []
  keywordRest : Option String := none
  deriving Inhabited

/-- All parameter names, in the order of their slots. -/
def Signature.names (s : Signature) : List String :=
  s.positionalOnly ++ s.positional ++ s.keywordOnly ++ s.rest.toList ++ s.keywordRest.toList

inductive Expr where
  | omitted
  | lit (l : Literal)
  | name (line : Nat) (id : String)
  | unary (op : UnaryOp) (e : Expr)
  | binary (op : BinaryOp) (l r : Expr)
  /-- `and` or `or` over two or more operands. -/
  | logic (conjunction : Bool) (es : List Expr)
  /-- A chain: the operands are one more than the operators. -/
  | compare (ops : List CompareOp) (es : List Expr)
  | cond (test yes no : Expr)
  /-- Defaults of the last positional parameters, then one (or `omitted`) per keyword-only one. -/
  | lambda (line : Nat) (sig : Signature) (defaults keywordDefaults : List Expr) (body : Expr)
  | call (line : Nat) (f : Expr) (args : List Expr)
  | attr (line : Nat) (e : Expr) (id : String)
  | index (line : Nat) (e idx : Expr)
  | slice (lo hi step : Expr)
  | starred (line : Nat) (e : Expr)
  | keyword (line : Nat) (id : String) (e : Expr)
  | doubleStarred (e : Expr)
  | display (shape : Shape) (es : List Expr)
  | pair (k v : Expr)
  | comprehension (line : Nat) (shape : Shape) (item : Expr) (clauses : List Expr)
  | clause (concurrent : Bool) (target source : Expr) (conditions : List Expr)
  | named (line : Nat) (id : String) (e : Expr)
  | yield (line : Nat) (e : Expr)
  | yieldFrom (line : Nat) (e : Expr)
  | await (line : Nat) (e : Expr)
  /-- The pieces of a formatted string: literals and `field`s. -/
  | joined (parts : List Expr)
  | field (e : Expr) (conversion : Option Char) (spec : Expr)
  deriving Inhabited

/-- A name that an import brings in, and what it is called here. -/
structure Alias where
  name : String
  as? : Option String
  deriving Inhabited

inductive Stmt where
  | expr (line : Nat) (e : Expr)
  | assign (line : Nat) (targets : List Expr) (value : Expr)
  | augment (line : Nat) (target : Expr) (op : BinaryOp) (value : Expr)
  | ret (line : Nat) (e : Expr)
  | delete (line : Nat) (targets : List Expr)
  | pass
  | leave (line : Nat)
  | next (line : Nat)
  | ite (test : Expr) (yes no : List Stmt)
  | whileLoop (test : Expr) (body otherwise : List Stmt)
  | forLoop (line : Nat) (target source : Expr) (body otherwise : List Stmt)
  | attempt (line : Nat) (body handlers otherwise final : List Stmt)
  /-- A handler of an `attempt`; `kind` is omitted if it takes everything. -/
  | handler (line : Nat) (kind : Expr) (id : Option String) (body : List Stmt)
  /-- Managers, each a `pair manager target` with the target perhaps omitted. -/
  | withBlock (line : Nat) (items : List Expr) (body : List Stmt)
  | raise (line : Nat) (error cause : Expr)
  | assert (line : Nat) (test message : Expr)
  | importModules (line : Nat) (names : List Alias)
  | importFrom (line : Nat) (module : String) (names : List Alias) (level : Nat)
  | global (line : Nat) (names : List String)
  | function (line : Nat) (id : String) (sig : Signature)
      (defaults keywordDefaults annotations decorators : List Expr) (body : List Stmt)
  | classDef (line : Nat) (id : String) (bases decorators : List Expr) (body : List Stmt)
  /-- A statement of a kind that no script may hold; nothing inside it matters. -/
  | refused (line : Nat) (kind : String)
  /-- Adds to what a comprehension collects; it has no written form. -/
  | collect (shape : Shape) (item : Expr)
  deriving Inhabited

/-- Does it stand for any number of values? -/
def Expr.isStarred : Expr → Bool
  | .starred .. => true
  | _ => false

end Stepwise.Script
