/-!
# Values

A value is either small and immutable, and then written out in full, or a reference to an
object in the store. Two references are the same object exactly when their addresses agree, so
sharing and containers that hold themselves need no further machinery.
-/

namespace Stepwise

/-- The place of an object in the store. -/
abbrev Addr := Nat

/-- What contexts, inputs, scripts and templates compute with. -/
inductive Value where
  | null
  | bool (b : Bool)
  | int (n : Int)
  | float (x : Float)
  | str (s : String)
  /-- Text that is already escaped for HTML. -/
  | markup (s : String)
  | bytes (b : List UInt8)
  | ellipsis
  /-- The answer of a comparison that does not know its operands. -/
  | notImplemented
  /-- A class that every program has. -/
  | cls (name : String)
  /-- A function that every program has. -/
  | fn (name : String)
  /-- A function that the host application passes in. -/
  | host (name : String)
  /-- An object in the store. -/
  | ref (a : Addr)
  deriving Inhabited

namespace Value

/-- The same value: the same object, or small values with the same content. A number that is not
a number is the same as nothing. -/
def same : Value → Value → Bool
  | null, null => true
  | bool a, bool b => a == b
  | int a, int b => a == b
  | float a, float b => a.toBits == b.toBits && !a.isNaN
  | str a, str b => a == b
  | markup a, markup b => a == b
  | bytes a, bytes b => a == b
  | ellipsis, ellipsis => true
  | notImplemented, notImplemented => true
  | cls a, cls b => a == b
  | fn a, fn b => a == b
  | host a, host b => a == b
  | ref a, ref b => a == b
  | _, _ => false

/-- The text of a string, escaped or not. -/
def text? : Value → Option String
  | str s | markup s => some s
  | _ => none

/-- The whole number of a number without fraction by type; truth values count as 0 and 1. -/
def int? : Value → Option Int
  | int n => some n
  | bool b => some (if b then 1 else 0)
  | _ => none

def isNull : Value → Bool
  | null => true
  | _ => false

def addr? : Value → Option Addr
  | ref a => some a
  | _ => none

end Value

/-- The arguments of a call. -/
structure Args where
  pos : List Value := []
  named : List (String × Value) := []
  deriving Inhabited

end Stepwise
