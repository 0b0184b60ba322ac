/-!
# Double precision numbers as exact quotients

A finite double is `± m * 2 ^ e` with whole `m` and `e`. Reading a number off this form is exact,
so rounding, remainders and comparisons with whole numbers are done on quotients of whole
numbers and only the last step goes back to a double.
-/

namespace Stepwise.Number

/-- What the bits of a double say. -/
inductive Parts where
  | nan
  | infinite (negative : Bool)
  | finite (negative : Bool) (mantissa : Nat) (exponent : Int)
  deriving DecidableEq

/-- The sign, the whole mantissa and the binary exponent of a double. -/
def partsOf (x : Float) : Parts :=
  let bits := x.toBits.toNat
  let negative := bits / Nat.pow 2 63 = 1
  let e := bits / Nat.pow 2 52 % Nat.pow 2 11
  let f := bits % Nat.pow 2 52
  if e = 2047 then (if f = 0 then .infinite negative else .nan)
  else if e = 0 then .finite negative f (-1074)
  else .finite negative (Nat.pow 2 52 + f) (Int.ofNat e - 1075)

def isNegative (x : Float) : Bool := x.toBits.toNat / Nat.pow 2 63 == 1

/-- A quotient `num / den` with `den > 0`. -/
structure Quotient where
  num : Int
  den : Nat
  deriving DecidableEq

namespace Quotient

/-- The quotient `m * 2 ^ e`. -/
def ofScaled (m : Int) (e : Int) : Quotient :=
  if e ≥ 0 then ⟨m * Nat.pow 2 e.toNat, 1⟩ else ⟨m, Nat.pow 2 (-e).toNat⟩

def ofInt (n : Int) : Quotient := ⟨n, 1⟩

/-- The exact value of a finite double. -/
def ofFloat? (x : Float) : Option Quotient :=
  match partsOf x with
  | .finite neg m e => some (ofScaled (if neg then -Int.ofNat m else Int.ofNat m) e)
  | _ => none

/-- The order of two quotients. -/
def compare (a b : Quotient) : Ordering :=
  Ord.compare (a.num * b.den) (b.num * a.den)

def floor (a : Quotient) : Int := a.num.fdiv a.den

/-- Toward zero. -/
def truncate (a : Quotient) : Int := a.num.tdiv a.den

/-- The nearest whole number, a half going to the even neighbour. -/
def roundEven (a : Quotient) : Int :=
  let f := a.num.fdiv a.den
  let r := a.num - f * a.den
  let twice := 2 * r
  if twice < a.den then f
  else if twice > a.den then f + 1
  else if f % 2 = 0 then f else f + 1

end Quotient

/-- How many binary digits a natural number has. -/
def bitLength (n : Nat) : Nat := if n = 0 then 0 else n.log2 + 1

/-- The double nearest to `num / den` (`den > 0`), a tie going to the even mantissa; infinite
when it is out of range. -/
def nearestOfNat (num den : Nat) : Float :=
  if num = 0 then 0.0
  else
    -- scale so that the whole quotient has at least 55 binary digits, and mark what is cut off
    let shift : Int := Int.ofNat (bitLength den) + 56 - Int.ofNat (bitLength num)
    let (n, d) := if shift ≥ 0 then (num * Nat.pow 2 shift.toNat, den)
      else (num, den * Nat.pow 2 (-shift).toNat)
    let q := n / d
    let sticky := if n % d = 0 then 0 else 1
    -- the exponent of the lowest binary digit kept; below the range fewer digits are kept
    let len := bitLength q
    let drop0 : Nat := len - 53
    let lowest : Int := Int.ofNat drop0 - shift
    let drop : Nat := if lowest < -1074 then drop0 + (-1074 - lowest).toNat else drop0
    let kept := q / Nat.pow 2 drop
    let rest := 2 * (q % Nat.pow 2 drop) + sticky
    let half := Nat.pow 2 drop
    let m := if rest > half || (rest = half && kept % 2 = 1) then kept + 1 else kept
    let e : Int := Int.ofNat drop - shift
    if Int.ofNat (bitLength m) + e > 1024 then 1.0 / 0.0
    else if m = 0 then 0.0
    else
      -- assemble the bits directly
      let blen := bitLength m
      if blen < 53 then
        -- below the normal range the exponent is the lowest one
        Float.ofBits (UInt64.ofNat (if e = -1074 then m
          else (m * Nat.pow 2 (53 - blen) - Nat.pow 2 52)
            + (e - Int.ofNat (53 - blen) + 1075).toNat * Nat.pow 2 52))
      else
        let (m, e) := if blen > 53 then (m / 2, e + 1) else (m, e)
        Float.ofBits (UInt64.ofNat ((m - Nat.pow 2 52) + (e + 1075).toNat * Nat.pow 2 52))

/-- The double nearest to a quotient of whole numbers. -/
def nearest (q : Quotient) : Float :=
  let x := nearestOfNat q.num.natAbs q.den
  if q.num < 0 then -x else x

/-- The double nearest to a whole number, if it is in range. -/
def ofInt? (n : Int) : Option Float :=
  let x := nearest ⟨n, 1⟩
  if x.isInf then none else some x

/-- The order of a whole number and a double, none for NaN. -/
def compareIntFloat (n : Int) (x : Float) : Option Ordering :=
  match partsOf x with
  | .nan => none
  | .infinite neg => some (if neg then .gt else .lt)
  | .finite .. =>
    match Quotient.ofFloat? x with
    | some q => some ((Quotient.ofInt n).compare q)
    | none => none

/-- The whole number that a double is, if it is one. -/
def wholeValue? (x : Float) : Option Int :=
  match Quotient.ofFloat? x with
  | some q => if q.num % q.den = 0 then some (q.num / q.den) else none
  | none => none

/-- Remainder with the sign of the divisor, and the matching quotient rounded down. Both
operands are finite and the divisor is not zero. -/
def floorDivMod (x y : Float) : Float × Float :=
  match Quotient.ofFloat? x, Quotient.ofFloat? y with
  | some a, some b =>
    -- common denominator
    let n := a.num * b.den
    let d := b.num * a.den
    let den := a.den * b.den
    let t := n.tmod d
    let r := nearest ⟨t, den⟩
    if t = 0 then
      let q := nearest (Quotient.ofInt (n.fdiv d))
      (if n = 0 then (x / y) else q, if isNegative y then -0.0 else 0.0)
    else if (t < 0) ≠ (d < 0) then
      (nearest (Quotient.ofInt (n.fdiv d)), r + y)
    else (nearest (Quotient.ofInt (n.fdiv d)), r)
  | none, _ => (0.0 / 0.0, 0.0 / 0.0)
  | some a, none =>
    if y.isNaN then (y, y)
    else if a.num = 0 then (if isNegative x = isNegative y then 0.0 else -0.0,
      if isNegative y then -0.0 else 0.0)
    else if isNegative x = isNegative y then (0.0, x) else (-1.0, y)

/-- Remainder with the sign of the dividend, exact. -/
def truncMod (x y : Float) : Float :=
  match Quotient.ofFloat? x, Quotient.ofFloat? y with
  | some a, some b =>
    let t := (a.num * b.den).tmod (b.num * a.den)
    if t = 0 then (if isNegative x then -0.0 else 0.0) else nearest ⟨t, a.den * b.den⟩
  | some _, none => if y.isNaN then y else x
  | none, _ => 0.0 / 0.0

end Stepwise.Number
