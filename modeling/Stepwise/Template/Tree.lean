import Stepwise.Value.Operator
/-!
# The syntax tree of templates

Expressions nest only in lists of expressions, and a part that is left out is `omitted`. The
body of a template is a list of nodes.
-/

namespace Stepwise.Template

inductive CompareOp where
  | eq | ne | lt | le | gt | ge | member | notMember
  deriving DecidableEq, Inhabited

inductive Literal where
  | null
  | bool (b : Bool)
  | int (n : Int)
  | float (x : Float)
  | str (s : String)
  deriving Inhabited

inductive Expr where
  | omitted
  | lit (l : Literal)
  /-- Text of the template itself. -/
  | data (s : String)
  | name (id : String)
  | tuple (es : List Expr)
  | list (es : List Expr)
  /-- Entries are `pair`s. -/
  | dict (es : List Expr)
  | pair (k v : Expr)
  /-- The line is where the condition begins. -/
  | cond (test yes no : Expr) (line : Nat)
  /-- The operand is omitted where the filter works on the text of a block. -/
  | filter (e : Expr) (id : String) (args : List Expr)
  | test (e : Expr) (id : String) (args : List Expr)
  | call (f : Expr) (args : List Expr)
  | keyword (id : String) (e : Expr)
  | starred (e : Expr)
  | doubleStarred (e : Expr)
  | attr (e : Expr) (id : String)
  | index (e idx : Expr)
  | slice (lo hi step : Expr)
  | concat (es : List Expr)
  | compare (ops : List CompareOp) (es : List Expr)
  | binary (op : BinaryOp) (l r : Expr)
  | unary (op : UnaryOp) (e : Expr)
  | both (l r : Expr)
  | either (l r : Expr)
  /-- `namespace.attribute` as the target of a `set`. -/
  | fieldRef (id field : String)
  deriving Inhabited

inductive Node where
  /-- Text and printed expressions. -/
  | output (parts : List Expr)
  | forLoop (target source : Expr) (body otherwise : List Node) (test : Expr) (recursive : Bool)
  | ite (test : Expr) (yes no : List Node)
  | macroDef (id : String) (params : List String) (defaults : List Expr) (body : List Node)
  | callBlock (call : Expr) (params : List String) (defaults : List Expr) (body : List Node)
  | filterBlock (filter : Expr) (body : List Node)
  | withBlock (targets values : List Expr) (body : List Node)
  | block (id : String) (body : List Node) (seesLocals required : Bool)
  | assign (target value : Expr)
  | assignBlock (target filter : Expr) (body : List Node)
  | extends (parent : Expr)
  | included (source : Expr) (ignoreMissing : Bool)
  | importAs (source : Expr) (id : String)
  | importFrom (source : Expr) (names : List String)
  | autoescape (value : Expr) (body : List Node)
  deriving Inhabited

end Stepwise.Template
