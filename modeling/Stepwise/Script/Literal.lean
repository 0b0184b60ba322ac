import Stepwise.Script.Token
import Stepwise.Text.Names
/-!
# Literals of text

What the letters between quotes stand for: escapes are replaced unless the literal is raw.
-/

namespace Stepwise.Script

namespace Written

def hexDigits? (n : Nat) (s : List Char) : Option (Nat × List Char) :=
  let ds := s.take n
  if ds.length = n then
    (Number.digitsIn? 16 ds).bind fun vs =>
      if ds.all (·.toNat < 128) then some (Number.valueOfDigits 16 vs, s.drop n) else none
  else none

private def isOctal (c : Char) : Bool := '0' ≤ c && c ≤ '7'

/-- One escape, behind its backslash: what it stands for and what follows. -/
def escape (bytes : Bool) (c : Char) (r : List Char) : Option (List Char × List Char) :=
  let one (d : Char) : Option (List Char × List Char) := some ([d], r)
  let coded (n : Nat) : Option (List Char × List Char) := do
    let (v, rest) ← hexDigits? n r
    if v > 0x10ffff then none else return ([Char.ofNat v], rest)
  match c with
  | '\n' => some ([], r)
  | '\\' => one '\\'
  | '\'' => one '\''
  | '"' => one '"'
  | 'a' => one '\x07'
  | 'b' => one '\x08'
  | 'f' => one '\x0c'
  | 'n' => one '\n'
  | 'r' => one '\r'
  | 't' => one '\t'
  | 'v' => one '\x0b'
  | 'x' => coded 2
  | _ =>
    if isOctal c then
      let ds := c :: (r.take 2).takeWhile isOctal
      let v := Number.valueOfDigits 8 (ds.map fun d => d.toNat - 48)
      some ([Char.ofNat (if bytes then v % 256 else v)], r.drop (ds.length - 1))
    else if bytes then some (['\\', c], r)
    else match c with
      | 'u' => coded 4
      | 'U' => coded 8
      | 'N' =>
        match r with
        | '\x7b' :: r =>
          let name := r.takeWhile (· ≠ '\x7d')
          if name.length = r.length then none
          else (Text.charNamed? (String.ofList name)).map fun d => ([d], r.drop (name.length + 1))
        | _ => none
      | _ => some (['\\', c], r)

def unescapeLoop (bytes : Bool) : Nat → List Char → Option (List Char)
  | 0, _ => none
  | _ + 1, [] => some []
  | fuel + 1, '\\' :: c :: r =>
    match escape bytes c r with
    | some (cs, rest) => (unescapeLoop bytes fuel rest).map (cs ++ ·)
    | none => none
  | fuel + 1, c :: r => (unescapeLoop bytes fuel r).map (c :: ·)

/-- Replaces the escapes of a text; none if one is misspelt. -/
def unescape (bytes : Bool) (s : List Char) : Option (List Char) :=
  unescapeLoop bytes (s.length + 1) s

/-- The characters of a literal that is not formatted. -/
def chars? (w : Written) : Option (List Char) :=
  if w.bytes && w.body.any (·.toNat ≥ 128) then none
  else if w.raw then some w.body
  else unescape w.bytes w.body

end Written

end Stepwise.Script
