/-!
# Operators

The operators that scripts and templates share, and how messages write them.
-/

namespace Stepwise

inductive BinaryOp where
  | add | sub | mul | matMul | div | floorDiv | mod | pow
  | shiftLeft | shiftRight | bitAnd | bitOr | bitXor
  deriving DecidableEq, Inhabited

inductive UnaryOp where
  | plus | minus | invert | negate
  deriving DecidableEq, Inhabited

def BinaryOp.sign : BinaryOp → String
  | .add => "+" | .sub => "-" | .mul => "*" | .matMul => "@" | .div => "/" | .floorDiv => "//"
  | .mod => "%" | .pow => "**" | .shiftLeft => "<<" | .shiftRight => ">>" | .bitAnd => "&"
  | .bitOr => "|" | .bitXor => "^"

def UnaryOp.sign : UnaryOp → String
  | .plus => "+" | .minus => "-" | .invert => "~" | .negate => "not"

end Stepwise
