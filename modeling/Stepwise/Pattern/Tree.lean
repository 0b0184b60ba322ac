/-!
# Patterns

The tree of a pattern: what a text has to look like. Switches such as "ignore case" are settled
while a pattern is read, so that every node carries those that concern it.
-/

namespace Stepwise.Pattern

/-- The switches of a pattern. -/
structure Flags where
  ignoreCase : Bool := false
  multiline : Bool := false
  dotAll : Bool := false
  verbose : Bool := false
  ascii : Bool := false
  deriving DecidableEq, Inhabited

namespace Flags

private def bit (b : Bool) (n : Nat) : Nat := if b then n else 0

/-- The switches as a number; patterns of texts always have the switch 32. -/
def toNat (f : Flags) : Nat :=
  bit f.ignoreCase 2 + bit f.multiline 8 + bit f.dotAll 16 + bit f.verbose 64 +
    bit f.ascii 256 + bit (!f.ascii) 32

def ofNat (n : Nat) : Flags :=
  { ignoreCase := n.testBit 1, multiline := n.testBit 3, dotAll := n.testBit 4, verbose := n.testBit 6,
    ascii := n.testBit 8 }

end Flags

inductive ClassKind where
  | digit | space | word
  deriving DecidableEq, Inhabited

/-- A member of a set of characters. -/
inductive Item where
  | char (c : Char)
  | range (lo hi : Char)
  | cls (kind : ClassKind) (negated ascii : Bool)
  deriving DecidableEq, Inhabited

/-- How a repetition chooses how often to repeat. -/
inductive Greed where
  /-- As often as possible. -/
  | most
  /-- As seldom as possible. -/
  | least
  /-- As often as possible, with no way back. -/
  | all
  deriving DecidableEq, Inhabited

inductive Node where
  | char (c : Char) (fold : Bool)
  | any (lines : Bool)
  | set (negated fold : Bool) (items : List Item)
  | textStart
  | textEnd
  | lineStart
  /-- The end of a line, or only of the last one. -/
  | lineEnd (every : Bool)
  | boundary (negated ascii : Bool)
  | seq (ns : List Node)
  | alt (ns : List Node)
  | group (index : Nat) (n : Node)
  | repeated (n : Node) (least : Nat) (most : Option Nat) (greed : Greed)
  | back (index : Nat) (fold : Bool)
  /-- What stands ahead, or behind with a fixed width. -/
  | look (behind : Option Nat) (negated : Bool) (n : Node)
  | atomic (n : Node)
  | cond (index : Nat) (yes no : Node)
  deriving Inhabited

/-- A pattern that has been read. -/
structure Compiled where
  node : Node
  flags : Flags
  /-- How many groups there are, the whole match not counted. -/
  groups : Nat
  names : List (String × Nat)
  deriving Inhabited

/-- Why a pattern cannot be read, and where. -/
structure Fault where
  message : String
  position : Option Nat
  deriving DecidableEq, Inhabited

/-- The text of a fault; the line and the column are told only where there is more than one line. -/
def Fault.text (f : Fault) (pattern : List Char) : String :=
  match f.position with
  | none => f.message
  | some p =>
    let base := f.message ++ " at position " ++ toString p
    if pattern.contains '\n' then
      let before := pattern.take p
      let line := (before.filter (· == '\n')).length + 1
      let column := (before.reverse.takeWhile (· != '\n')).length + 1
      base ++ " (line " ++ toString line ++ ", column " ++ toString column ++ ")"
    else base

/-! ## Widths -/

private def onBoth (f : Nat → Nat → Nat) : Option Nat → Option Nat → Option Nat
  | some a, some b => some (f a b)
  | _, _ => none

mutual

/-- The least and the greatest number of characters that a node takes. -/
def Node.width (known : Nat → Nat × Option Nat) : Node → Nat × Option Nat
  | .char .. | .any _ | .set .. => (1, some 1)
  | .textStart | .textEnd | .lineStart | .lineEnd _ | .boundary .. | .look .. => (0, some 0)
  | .seq ns => widthOfAll known ns
  | .alt ns => widthOfAny known ns
  | .group _ n | .atomic n => n.width known
  | .repeated n lo hi _ =>
    let (a, b) := n.width known
    (a * lo, match b, hi with
      | some b, some hi => some (b * hi)
      | some 0, none => some 0
      | _, _ => none)
  | .back i _ => known i
  | .cond _ y n =>
    let (a, b) := y.width known
    let (c, d) := n.width known
    (min a c, onBoth max b d)

private def widthOfAll (known : Nat → Nat × Option Nat) : List Node → Nat × Option Nat
  | [] => (0, some 0)
  | n :: r =>
    let (a, b) := n.width known
    let (c, d) := widthOfAll known r
    (a + c, onBoth (· + ·) b d)

private def widthOfAny (known : Nat → Nat × Option Nat) : List Node → Nat × Option Nat
  | [] => (0, some 0)
  | [n] => n.width known
  | n :: r =>
    let (a, b) := n.width known
    let (c, d) := widthOfAny known r
    (min a c, onBoth max b d)

end

end Stepwise.Pattern
