import Stepwise.Pattern.Read
/-!
# Replacements

The text that is put in the place of a match, with references to what its groups matched.
-/

namespace Stepwise.Pattern

/-- A piece of a replacement. -/
inductive Piece where
  | text (s : List Char)
  | group (index : Nat)
  deriving DecidableEq, Inhabited

/-- Why a replacement cannot be read. -/
inductive ReplacementFault where
  | fault (f : Fault)
  | unknownName (name : String)
  deriving DecidableEq, Inhabited

open Reading

private def reference (p : Compiled) (g back : Nat) : Reading Piece := do
  if g > p.groups then fail ("invalid group reference " ++ toString g) back
  return .group g

private def controlChar? : Char → Option Char
  | 'a' => some '\x07'
  | 'b' => some '\x08'
  | 'f' => some '\x0c'
  | 'n' => some '\n'
  | 'r' => some '\r'
  | 't' => some '\t'
  | 'v' => some '\x0b'
  | '\\' => some '\\'
  | _ => none

/-- A piece, or the name of a group that there is not. -/
private def piece (p : Compiled) (token : List Char) : Reading (Piece ⊕ String) := do
  match token with
  | ['\\', 'g'] =>
    if !(← accept '<') then fail "missing <"
    let name ← takeName '>' "group name"
    if name.all Char.isDigit then
      return .inl (← reference p (numberIn 10 name) (name.length + 1))
    else
      if !Text.isName name then
        fail ("bad character in group name " ++ Text.quoted (String.ofList name)) (name.length + 1)
      match p.names.lookup (String.ofList name) with
      | some g => return .inl (.group g)
      | none => return .inr (String.ofList name)
  | ['\\', '0'] =>
    let ds ← Reading.takeWhile 2 isOctal
    return .inl (.text [Char.ofNat (numberIn 8 ds % 256)])
  | ['\\', c] =>
    if c.isDigit then
      let second ← Reading.takeWhile 1 Char.isDigit
      let third ← if isOctal c && second.any isOctal then Reading.takeWhile 1 isOctal else pure []
      let ds := c :: second ++ third
      if third.isEmpty then return .inl (← reference p (numberIn 10 ds) ds.length)
      else
        let n := numberIn 8 ds
        if n > 255 then
          fail ("octal escape value \\" ++ String.ofList ds ++ " outside of range 0-0o377") (ds.length + 1)
        return .inl (.text [Char.ofNat n])
    else
      match controlChar? c with
      | some d => return .inl (.text [d])
      | none =>
        if c.isAlpha then fail ("bad escape \\" ++ String.singleton c) 2
        return .inl (.text ['\\', c])
  | t => return .inl (.text t)

private def pieces (p : Compiled) : Nat → List Piece → Reading (List Piece ⊕ String)
  | 0, acc => return .inl acc.reverse
  | fuel + 1, acc => do
    match ← take with
    | none => return .inl acc.reverse
    | some t =>
      match ← piece p t with
      | .inl x => pieces p fuel (x :: acc)
      | .inr name => return .inr name

/-- Reads a replacement for matches of a pattern. -/
def readReplacement (p : Compiled) (s : List Char) : Except ReplacementFault (List Piece) :=
  let start : ReadState := { rest := s, position := 0, flags := {} }
  match (pieces p (s.length + 1) []).run start with
  | .ok (.inl ps, _) => .ok ps
  | .ok (.inr name, _) => .error (.unknownName name)
  | .error (.fault f) => .error (.fault f)
  | .error .tooMany => .ok []

end Stepwise.Pattern
