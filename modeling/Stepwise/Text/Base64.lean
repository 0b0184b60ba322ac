/-!
# Bytes in sixty-four letters

Three bytes are written as four letters. Reading skips what is not a letter and stops at the
first padding that completes a group.
-/

namespace Stepwise.Text

private def letters : String :=
  "ABCDEFGHIJKLMNOPQRSTUVWXYZabcdefghijklmnopqrstuvwxyz0123456789+/"

private def letter (n : Nat) : Char := letters.toList.getD n 'A'

private def letterValue? (c : Char) : Option Nat :=
  if 'A' ≤ c && c ≤ 'Z' then some (c.toNat - 65)
  else if 'a' ≤ c && c ≤ 'z' then some (c.toNat - 71)
  else if c.isDigit then some (c.toNat + 4)
  else if c = '+' then some 62
  else if c = '/' then some 63
  else none

/-- The letters of a sequence of bytes. -/
def encodeBase64 : List UInt8 → List Char
  | a :: b :: c :: r =>
    let n := a.toNat * 65536 + b.toNat * 256 + c.toNat
    letter (n / 262144) :: letter (n / 4096 % 64) :: letter (n / 64 % 64) :: letter (n % 64) ::
      encodeBase64 r
  | [a, b] =>
    let n := a.toNat * 1024 + b.toNat * 4
    [letter (n / 4096), letter (n / 64 % 64), letter (n % 64), '=']
  | [a] =>
    let n := a.toNat * 16
    [letter (n / 64), letter (n % 64), '=', '=']
  | [] => []

private def linesOf : Nat → List Char → List Char
  | 0, _ => []
  | fuel + 1, s =>
    if s.isEmpty then [] else s.take 76 ++ ['\n'] ++ linesOf fuel (s.drop 76)

/-- The letters in lines of at most 76, each ended by a line feed. -/
def encodeBase64Lines (b : List UInt8) : List Char :=
  let s := encodeBase64 b
  linesOf (s.length + 1) s

private def decodeGroups : List Char → Nat → Nat → Nat → List UInt8 → Option (List UInt8)
  | [], quad, _, _, out => if quad = 0 then some out.reverse else none
  | c :: r, quad, left, pads, out =>
    if c = '=' then
      if quad ≥ 2 && quad + pads + 1 ≥ 4 then some out.reverse
      else decodeGroups r quad left (if quad ≥ 2 then pads + 1 else pads) out
    else match letterValue? c with
      | none => decodeGroups r quad left pads out
      | some v =>
        match quad with
        | 0 => decodeGroups r 1 v 0 out
        | 1 => decodeGroups r 2 (v % 16) 0 ((left * 4 + v / 16).toUInt8 :: out)
        | 2 => decodeGroups r 3 (v % 4) 0 ((left * 16 + v / 4).toUInt8 :: out)
        | _ => decodeGroups r 0 0 0 ((left * 64 + v).toUInt8 :: out)

/-- The bytes that letters stand for, if the last group is complete. -/
def decodeBase64? (s : List Char) : Option (List UInt8) := decodeGroups s 0 0 0 []

end Stepwise.Text
