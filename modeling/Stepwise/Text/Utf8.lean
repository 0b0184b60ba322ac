/-!
# Reading bytes as UTF-8

A decoder that either yields the text or says at which byte it stopped and why.
-/

namespace Stepwise.Text

/-- Where and why bytes are not UTF-8. -/
structure Utf8Fault where
  position : Nat
  /-- One past the last byte that belongs to the fault. -/
  stop : Nat
  reason : String
  deriving DecidableEq

/-- How many continuation bytes a start byte asks for, and the range of the first of them. -/
private def startByte (b : Nat) : Option (Nat × Nat × Nat) :=
  if 0xc2 ≤ b && b ≤ 0xdf then some (1, 0x80, 0xbf)
  else if b = 0xe0 then some (2, 0xa0, 0xbf)
  else if b = 0xed then some (2, 0x80, 0x9f)
  else if 0xe1 ≤ b && b ≤ 0xef then some (2, 0x80, 0xbf)
  else if b = 0xf0 then some (3, 0x90, 0xbf)
  else if 0xf1 ≤ b && b ≤ 0xf3 then some (3, 0x80, 0xbf)
  else if b = 0xf4 then some (3, 0x80, 0x8f)
  else none

/-- Reads up to `n` continuation bytes: the code point so far, how many were read, the rest. -/
private def continuation : Nat → Nat → Nat → Nat → Nat → List UInt8 →
    Nat × Nat × List UInt8
  | 0, _, _, acc, seen, rest => (acc, seen, rest)
  | n + 1, lo, hi, acc, seen, b :: rest =>
    if lo ≤ b.toNat && b.toNat ≤ hi then
      continuation n 0x80 0xbf (acc * 64 + b.toNat % 64) (seen + 1) rest
    else (acc, seen, b :: rest)
  | _ + 1, _, _, acc, seen, [] => (acc, seen, [])

private def decodeLoop : Nat → Nat → List UInt8 → List Char → Except Utf8Fault (List Char)
  | 0, _, _, acc => .ok acc.reverse
  | _, _, [], acc => .ok acc.reverse
  | fuel + 1, i, b :: rest, acc =>
    if b.toNat < 128 then decodeLoop fuel (i + 1) rest (Char.ofNat b.toNat :: acc)
    else match startByte b.toNat with
      | none => .error ⟨i, i + 1, "invalid start byte"⟩
      | some (n, lo, hi) =>
        let first := if n = 1 then b.toNat % 32 else if n = 2 then b.toNat % 16 else b.toNat % 8
        let (code, seen, rest') := continuation n lo hi first 0 rest
        if seen = n then decodeLoop fuel (i + 1 + n) rest' (Char.ofNat code :: acc)
        else if rest'.isEmpty then .error ⟨i, i + 1 + seen, "unexpected end of data"⟩
        else .error ⟨i, i + 1 + seen, "invalid continuation byte"⟩

/-- The text that bytes spell in UTF-8. -/
def decodeUtf8 (b : List UInt8) : Except Utf8Fault (List Char) :=
  decodeLoop (b.length + 1) 0 b []

def encodeUtf8 (s : String) : List UInt8 := s.toUTF8.toList

end Stepwise.Text
