import Stepwise.Text.Chars
/-!
# Displayed strings

A string is displayed between quotes, the single quote unless the text holds one and no double
quote. Backslashes, the quote and characters that do not print are escaped.
-/

namespace Stepwise.Text

def hexDigit (n : Nat) : Char := if n < 10 then Char.ofNat (48 + n) else Char.ofNat (87 + n)

/-- `n` in base sixteen, filled with zeros to `width` digits. -/
def hexPadded (width n : Nat) : List Char :=
  (List.range width).reverse.map fun k => hexDigit (n / Nat.pow 16 k % 16)

/-- A character as it stands in a displayed string. -/
def displayChar (quote c : Char) : List Char :=
  if c = quote || c = '\\' then ['\\', c]
  else if c = '\t' then ['\\', 't']
  else if c = '\n' then ['\\', 'n']
  else if c = '\r' then ['\\', 'r']
  else if isPrintable c then [c]
  else if c.toNat < 256 then ['\\', 'x'] ++ hexPadded 2 c.toNat
  else if c.toNat < 65536 then ['\\', 'u'] ++ hexPadded 4 c.toNat
  else ['\\', 'U'] ++ hexPadded 8 c.toNat

/-- The quote that a text is displayed between. -/
def quoteFor (s : List Char) : Char :=
  if s.contains '\'' && !s.contains '"' then '"' else '\''

/-- A string as it is displayed. -/
def quoted (s : String) : String :=
  let cs := s.toList
  let q := quoteFor cs
  String.ofList (q :: (cs.flatMap (displayChar q) ++ [q]))

private def displayByte (quote : Char) (b : UInt8) : List Char :=
  let c := Char.ofNat b.toNat
  if c = quote || c = '\\' then ['\\', c]
  else if c = '\t' then ['\\', 't']
  else if c = '\n' then ['\\', 'n']
  else if c = '\r' then ['\\', 'r']
  else if 32 ≤ b.toNat && b.toNat < 127 then [c]
  else ['\\', 'x'] ++ hexPadded 2 b.toNat

/-- A byte string as it is displayed. -/
def quotedBytes (b : List UInt8) : String :=
  let q := quoteFor (b.map fun x => Char.ofNat x.toNat)
  String.ofList ('b' :: q :: (b.flatMap (displayByte q) ++ [q]))

/-- Characters outside ASCII by their codes. -/
def escapeNonAscii (s : List Char) : List Char :=
  s.flatMap fun c =>
    if c.toNat < 128 then [c]
    else if c.toNat < 256 then ['\\', 'x'] ++ hexPadded 2 c.toNat
    else if c.toNat < 65536 then ['\\', 'u'] ++ hexPadded 4 c.toNat
    else ['\\', 'U'] ++ hexPadded 8 c.toNat

/-- A string displayed in ASCII alone. -/
def quotedAscii (s : String) : String := String.ofList (escapeNonAscii (quoted s).toList)

end Stepwise.Text
