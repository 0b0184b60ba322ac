import Stepwise.Library.Arguments
import Stepwise.Run.Index
import Stepwise.Text.Case
/-!
# Words and templates of texts

Sets of characters by name, capitals for words, and texts with marked places to fill in.
-/

namespace Stepwise.Words

private def lowercase : String := "abcdefghijklmnopqrstuvwxyz"
private def uppercase : String := "ABCDEFGHIJKLMNOPQRSTUVWXYZ"
private def punctuation : String := "!\"#$%&'()*+,-./:;<=>?@[\\]^_`\x7b|\x7d~"
private def whitespace : String := " \t\n\r\x0b\x0c"

def constants : List (String × Value) :=
  [("ascii_letters", .str (lowercase ++ uppercase)), ("ascii_lowercase", .str lowercase),
   ("ascii_uppercase", .str uppercase), ("digits", .str "0123456789"),
   ("hexdigits", .str "0123456789abcdefABCDEF"), ("octdigits", .str "01234567"),
   ("printable", .str ("0123456789" ++ lowercase ++ uppercase ++ punctuation ++ whitespace)),
   ("punctuation", .str punctuation), ("whitespace", .str whitespace)]

/-- Gives every word a capital and puts the words together again. -/
def capitalizeWords (a : Args) : Run Value := do
  let given ← a.assigned "capwords" ["s"] [("sep", .null)]
  let s := (given.lookup "s").getD .null
  match s.text? with
  | none => Run.attributeError ("'" ++ (← s.kindName) ++ "' object has no attribute 'split'")
  | some s =>
    match (given.lookup "sep").getD .null with
    | .null =>
      return .str (Text.joinWith " " ((Text.splitBlank none s.toList).map fun w =>
        String.ofList (Text.capitalizeChars w)))
    | sep =>
      match sep.text? with
      | none => Run.typeError ("must be str or None, not " ++ (← sep.kindName))
      | some "" => Run.valueError "empty separator"
      | some t =>
        return .str (Text.joinWith t ((Text.splitOn t.toList none s.toList).map fun w =>
          String.ofList (Text.capitalizeChars w)))

/-! ## Texts with marked places -/

/-- A piece of a text with marked places. -/
inductive Piece where
  | text (s : List Char)
  /-- A place with a name, and how it is written. -/
  | place (name : String) (written : List Char)
  /-- A mark without a name, so many characters from the start. -/
  | invalid (position : Nat)
  deriving DecidableEq, Inhabited

private def isStart (c : Char) : Bool := c == '_' || (c.isAlpha && c.toNat < 128)
private def isPart (c : Char) : Bool := isStart c || c.isDigit

/-- Cuts a text at its marked places. -/
def pieces (s : List Char) : List Piece := go (s.length + 1) 0 s
where
  go : Nat → Nat → List Char → List Piece
    | 0, _, _ => []
    | _, _, [] => []
    | fuel + 1, i, '$' :: '$' :: r => .text ['$'] :: go fuel (i + 2) r
    | fuel + 1, i, '$' :: '\x7b' :: r =>
      let name := r.takeWhile isPart
      match name, r.drop name.length with
      | c :: _, '\x7d' :: rest =>
        if isStart c then
          .place (String.ofList name) ('$' :: '\x7b' :: name ++ ['\x7d']) :: go fuel (i + name.length + 3) rest
        else .invalid i :: go fuel (i + 1) ('\x7b' :: r)
      | _, _ => .invalid i :: go fuel (i + 1) ('\x7b' :: r)
    | fuel + 1, i, '$' :: c :: r =>
      if isStart c then
        let name := (c :: r).takeWhile isPart
        .place (String.ofList name) ('$' :: name) :: go fuel (i + name.length + 1) ((c :: r).drop name.length)
      else .invalid i :: go fuel (i + 1) (c :: r)
    | fuel + 1, i, '$' :: [] => .invalid i :: go fuel (i + 1) []
    | fuel + 1, i, s =>
      let t := s.takeWhile (· != '$')
      .text t :: go fuel (i + t.length) (s.drop t.length)

def templateMethods : List String := ["get_identifiers", "is_valid", "safe_substitute", "substitute"]

/-- Calls a method of a text with marked places. -/
def callTemplate (m : Machine) (text name : String) (a : Args) : Run Value := do
  let ps := pieces text.toList
  match name with
  | "is_valid" =>
    return .bool (ps.all fun
      | .invalid _ => false
      | _ => true)
  | "get_identifiers" =>
    Run.list ((ps.filterMap fun
      | .place n _ => some n
      | _ => none).eraseDups.map Value.str)
  | _ =>
    let safe := name == "safe_substitute"
    if a.pos.length > 1 then
      Run.typeError ("Template." ++ name ++ "() takes from 1 to 2 positional arguments but " ++
        toString (a.pos.length + 1) ++ " were given")
    let find (n : String) : Run (Option Value) := do
      match a.named.lookup n, a.pos with
      | some v, _ => return some v
      | none, [d] =>
        match ← Run.outcome (getItem m d (.str n)) with
        | .ok v => return some v
        | .error e =>
          if safe && (← Value.isSubclass (← Run.errorClass e) (.cls "KeyError")) then return none
          else Run.raiseObject e
      | none, _ => if safe then return none else Run.raiseWith "KeyError" [.str n]
    let parts ← ps.mapM fun p => do
      match p with
      | .text s => return String.ofList s
      | .place n written =>
        match ← find n with
        | some v => v.plain
        | none => return String.ofList written
      | .invalid i =>
        if safe then return "$"
        else
          let before := text.toList.take i
          let line := (before.filter (· == '\n')).length + 1
          let column := (before.reverse.takeWhile (· != '\n')).length + 1
          Run.valueError ("Invalid placeholder in string: line " ++ toString line ++ ", col " ++ toString column)
    return .str (String.join parts)

end Stepwise.Words
