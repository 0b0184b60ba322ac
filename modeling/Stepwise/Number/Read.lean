import Stepwise.Number.Show
import Stepwise.Text.Cut
/-!
# Reading numbers

Whole numbers in any base up to 36 and numbers with a point or an exponent. Blanks around a
number do not matter, and a single underscore may stand between two digits.
-/

namespace Stepwise.Number

/-- The value of a digit in the larger bases. -/
def digitValue? (c : Char) : Option Nat :=
  match Text.decimalValue? c with
  | some d => some d
  | none =>
    if 'a' ≤ c && c ≤ 'z' then some (c.toNat - 87)
    else if 'A' ≤ c && c ≤ 'Z' then some (c.toNat - 55)
    else none

/-- Removes underscores that stand singly between other characters; none if one does not. -/
def dropUnderscores? : List Char → Option (List Char)
  | [] => some []
  | '_' :: _ => none
  | [c] => some [c]
  | c :: '_' :: d :: r => if d = '_' then none else (dropUnderscores? (d :: r)).map (c :: ·)
  | [_, '_'] => none
  | c :: d :: r => (dropUnderscores? (d :: r)).map (c :: ·)

/-- The digits of a number in a base, first digit first. -/
def digitsIn? (base : Nat) (s : List Char) : Option (List Nat) :=
  s.mapM fun c => match digitValue? c with
    | some d => if d < base then some d else none
    | none => none

/-- The value of digits, in halves so that long numbers are quick to read. -/
def valueOfDigits (base : Nat) (ds : List Nat) : Nat :=
  ds.foldl (fun n d => n * base + d) 0

/-- A sign in front is taken off; without one the number is not negative. -/
def splitSign : List Char → Bool × List Char
  | '-' :: r => (true, r)
  | '+' :: r => (false, r)
  | r => (false, r)

/-- The rest behind the mark of a base, if it stands there. -/
def baseMark (base : Nat) : List Char → Option (List Char)
  | '0' :: m :: r =>
    if (base = 2 && (m = 'b' || m = 'B')) || (base = 8 && (m = 'o' || m = 'O')) ||
        (base = 16 && (m = 'x' || m = 'X')) then some r else none
  | _ => none

private def baseOfMark : List Char → Option (Nat × List Char)
  | '0' :: m :: r =>
    if m = 'b' || m = 'B' then some (2, r)
    else if m = 'o' || m = 'O' then some (8, r)
    else if m = 'x' || m = 'X' then some (16, r)
    else none
  | _ => none

/-- A whole number in a base; base zero reads the base off the number. The digits come with it,
so that their number can be limited. -/
def readInt? (base : Nat) (s : List Char) : Option (Bool × Nat × List Nat) :=
  let (neg, body) := splitSign (Text.trim Text.isBlank s)
  let (b, rest) :=
    if base = 0 then
      match baseOfMark body with
      | some (b, r) => (b, if r.head? = some '_' then r.drop 1 else r)
      | none => (10, body)
    else match baseMark base body with
      | some r => (base, if r.head? = some '_' then r.drop 1 else r)
      | none => (base, body)
  match dropUnderscores? rest with
  | some [] => none
  | some cs =>
    match digitsIn? b cs with
    | some ds =>
      if base = 0 && b = 10 && ds.length > 1 && ds.head? = some 0 && ds.any (· ≠ 0) then none
      else some (neg, b, ds)
    | none => none
  | none => none

private def allDigits (s : List Char) : Bool := s.all fun c => (Text.decimalValue? c).isSome

private def digitsOf (s : List Char) : List Nat := s.filterMap Text.decimalValue?

/-- The double nearest to the digits of `whole.fraction` times a power of ten. -/
def ofDecimal (ds : List Nat) (exponent : Int) : Float :=
  let ds' := ds.dropWhile (· == 0)
  let n := valueOfDigits 10 ds'
  if n = 0 then 0.0
  else
    let size := Int.ofNat ds'.length + exponent
    if size > 400 then 1.0 / 0.0
    else if size < -400 then 0.0
    else if exponent ≥ 0 then nearestOfNat (n * Nat.pow 10 exponent.toNat) 1
    else nearestOfNat n (Nat.pow 10 (-exponent).toNat)

/-- An exponent, held within the range where it can matter. -/
private def readExponent? (s : List Char) : Option Int :=
  let (neg, r) := splitSign s
  match dropUnderscores? r with
  | some [] => none
  | some cs =>
    if allDigits cs then
      let n := min (valueOfDigits 10 ((digitsOf cs).take 12)) 1000000000
      some (if neg then -Int.ofNat n else Int.ofNat n)
    else none
  | none => none

private def part? (s : List Char) : Option (List Nat) :=
  if s.isEmpty then some []
  else match dropUnderscores? s with
    | some cs => if allDigits cs then some (digitsOf cs) else none
    | none => none

private def unsignedFloat? (s : List Char) : Option Float :=
  let low := s.map Char.toLower
  if low = "inf".toList || low = "infinity".toList then some (1.0 / 0.0)
  else if low = "nan".toList then some (0.0 / 0.0)
  else
    let isE (c : Char) : Bool := c = 'e' || c = 'E'
    let mantissa := s.takeWhile (fun c => !isE c)
    let tail := s.dropWhile (fun c => !isE c)
    let exponent := match tail with
      | [] => some 0
      | _ :: r => readExponent? r
    let whole := mantissa.takeWhile (· ≠ '.')
    let fraction := (mantissa.dropWhile (· ≠ '.')).drop 1
    match exponent, part? whole, part? fraction with
    | some e, some w, some f =>
      if w.isEmpty && f.isEmpty then none
      else some (ofDecimal (w ++ f) (e - Int.ofNat f.length))
    | _, _, _ => none

/-- A number with a point or an exponent, or one of the words for what is not finite. -/
def readFloat? (s : List Char) : Option Float :=
  let (neg, body) := splitSign (Text.trim Text.isBlank s)
  (unsignedFloat? body).map fun x => if neg then -x else x

end Stepwise.Number
