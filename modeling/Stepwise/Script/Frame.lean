import Stepwise.Value.Basic
import Stepwise.Script.Tree
/-!
# What is left to do

A script runs on an explicit stack. Each frame says what to do with the value, the end or the
way out of what runs above it. A generator that has yielded is nothing but such a stack kept for
later, and recursion of scripts needs no recursion of the evaluator.
-/

namespace Stepwise.Script

/-- How an operand of a call or a display takes part. -/
inductive Part where
  | plain
  | spread
  | named (id : String)
  | spreadNamed
  deriving DecidableEq, Inhabited

/-- What to do with the values of all operands, in order. -/
inductive Action where
  | discard
  | unary (op : UnaryOp)
  | binary (op : BinaryOp)
  | inPlace (id : String) (op : BinaryOp)
  | attr (id : String)
  | index
  | slice
  | display (shape : Shape) (parts : List Part)
  | dict (parts : List Part)
  | call (parts : List Part)
  | format (conversion : Option Char)
  | join
  | collect (shape : Shape)
  | yield
  | yieldFrom
  | ret
  | raise (hasCause : Bool)
  | assertion
  | assign (targets : List Expr)
  | setAttr (id : String) (v : Value)
  | setIndex (v : Value)
  | deleteAttr (id : String)
  | deleteIndex
  /-- Gives the value a name and goes on with it. -/
  | bind (id : String)
  /-- The value was asked to manage a block. -/
  | manage
  | iterate (target : Expr) (body otherwise : List Stmt)
  /-- The source of a comprehension's first clause. -/
  | gather (shape : Shape) (names : List String) (target : Expr) (body : List Stmt)
  /-- Decorators and defaults of a function that is about to be made; `named` are the parameters
  without place that have a default. -/
  | makeFunction (id : String) (sig : Signature) (body : List Stmt) (decorators defaults : Nat)
      (named : List String)
  | makeLambda (sig : Signature) (body : Expr) (defaults : Nat) (named : List String)
  /-- Decorators and bases of a class that is about to be made. -/
  | makeClass (id : String) (body : List Stmt) (decorators : Nat) (parts : List Part)
  deriving Inhabited

/-- A way out of a block. -/
inductive Exit where
  | ret (v : Value)
  | leave
  | next
  | raised (error : Addr)
  deriving Inhabited

inductive Frame where
  /-- Operands evaluated so far, last first, and those still to come. -/
  | operands (done : List Value) (todo : List Expr) (action : Action)
  | logic (conjunction : Bool) (rest : List Expr)
  /-- The left operand is still to come. -/
  | compareLeft (ops : List CompareOp) (rest : List Expr)
  | compareRight (left : Value) (op : CompareOp) (ops : List CompareOp) (rest : List Expr)
  | choose (yes no : Expr)
  | branch (yes no : List Stmt)
  | assertTest (message : Expr)
  | seq (rest : List Stmt)
  /-- Targets that still wait for their values. -/
  | store (todo : List (Expr × Value))
  | delete (todo : List Expr)
  | whileTest (test : Expr) (body otherwise : List Stmt)
  | whileBody (test : Expr) (body otherwise : List Stmt)
  | forBody (iter : Value) (target : Expr) (body otherwise : List Stmt)
  | attempt (handlers otherwise final : List Stmt)
  /-- An error was matched against the kind of the first handler. -/
  | matching (error : Addr) (id : Option String) (body handlers : List Stmt)
  | handling (error : Addr) (id : Option String)
  | closing (final : List Stmt)
  | finishing (pending : Option Exit)
  /-- The caller's scope, to go on in when the function is left. -/
  | function (scope : Addr)
  | comprehension (scope : Addr) (collected : Value)
  /-- The scope around a class, and its bases and decorators. -/
  | classBody (scope : Addr) (id : String) (bases decorators : List Value)
  | decorate (rest : List Value) (id : String)
  /-- The source of a `yield from`. -/
  | delegate (source : Value)
  deriving Inhabited

/-- What the machine does next. -/
inductive Control where
  | eval (e : Expr)
  | value (v : Value)
  | exec (ss : List Stmt)
  | done
  | exit (why : Exit)
  deriving Inhabited

/-- A running script: control, what is left to do, and the scope of names. -/
structure State where
  control : Control
  stack : List Frame
  scope : Addr
  deriving Inhabited

end Stepwise.Script
