import Stepwise.Number.Binary
/-!
# Decimal digits of a double

Two questions have the same shape: the fewest digits that read back as the same double, and the
digits to a given place. Both are answered in whole numbers on the exact value.
-/

namespace Stepwise.Number

/-- The digits `d₁ d₂ … dₙ` of a positive number and the power of ten of the first of them. -/
structure Digits where
  digits : List Nat
  exponent : Int
  deriving DecidableEq

/-- The decimal digits of a natural number, first digit first, by division; `0` has none. -/
def digitsOfNat (n : Nat) : List Nat :=
  (toString n).toList.map fun c => c.toNat - 48

def natOfDigits (ds : List Nat) : Nat := ds.foldl (fun n d => n * 10 + d) 0

/-- The power of ten of the first digit of `num / den`: `10 ^ k ≤ num / den < 10 ^ (k + 1)`. -/
def leadingPower (num den : Nat) : Int :=
  let guess : Int := Int.ofNat (toString num).length - Int.ofNat (toString den).length
  let reaches (k : Int) : Bool :=
    if k ≥ 0 then den * Nat.pow 10 k.toNat ≤ num else den ≤ num * Nat.pow 10 (-k).toNat
  if reaches (guess + 1) then guess + 1 else if reaches guess then guess else guess - 1

/-- `num / den` over `10 ^ k`, as a quotient of naturals. -/
def overPower (num den : Nat) (k : Int) : Nat × Nat :=
  if k ≥ 0 then (num, den * Nat.pow 10 k.toNat) else (num * Nat.pow 10 (-k).toNat, den)

/-- The neighbour of the value on the grid of `n` significant digits that lies within the
interval of numbers reading back as the value, nearest first. -/
private def gridHit (num den lowNum highNum boundDen : Nat) (inclusive : Bool) (lead : Int)
    (n : Nat) : Option Nat :=
  let unit := lead - (Int.ofNat n - 1)
  let (vn, vd) := overPower num den unit
  let k := vn / vd
  let (ln, ld) := overPower lowNum boundDen unit
  let (hn, hd) := overPower highNum boundDen unit
  let inside (c : Nat) : Bool :=
    if inclusive then ln ≤ c * ld && c * hd ≤ hn else ln < c * ld && c * hd < hn
  let below := 2 * (vn - k * vd)
  let first := if below < vd || (below = vd && k % 2 = 0) then k else k + 1
  let second := if first = k then k + 1 else k
  if first ≠ 0 && inside first then some first
  else if second ≠ 0 && inside second then some second
  else none

private def firstHit (probe : Nat → Option Nat) : Nat → Nat → Option Nat
  | 0, _ => none
  | k + 1, n => match probe n with
    | some d => some d
    | none => firstHit probe k (n + 1)

private def dropTrailingZeros (ds : List Nat) : List Nat :=
  (ds.reverse.dropWhile (· == 0)).reverse

/-- The fewest digits that read back as the double `m * 2 ^ e`, and of those the nearest. -/
def shortest (m : Nat) (e : Int) : Digits :=
  if m = 0 then ⟨[0], 0⟩
  else
    let value := Quotient.ofScaled (Int.ofNat m) e
    let num := value.num.natAbs
    let lead := leadingPower num value.den
    -- a mantissa that is the least of its binade has a nearer neighbour below
    let closeBelow := m = Nat.pow 2 52 && e > -1074
    let low := Quotient.ofScaled (if closeBelow then 4 * Int.ofNat m - 1 else 4 * Int.ofNat m - 2) (e - 2)
    let high := Quotient.ofScaled (4 * Int.ofNat m + 2) (e - 2)
    let boundDen := low.den * high.den
    let hit := firstHit
      (gridHit num value.den (low.num.natAbs * high.den) (high.num.natAbs * low.den) boundDen
        (m % 2 = 0) lead) 17 1
    match hit with
    | some d =>
      let n := (toString d).length
      let used := (firstHit (fun k =>
        if (gridHit num value.den (low.num.natAbs * high.den) (high.num.natAbs * low.den) boundDen
          (m % 2 = 0) lead k).isSome then some k else none) 17 1).getD 17
      -- rounding up may have produced one digit more
      ⟨dropTrailingZeros (digitsOfNat d), lead + (Int.ofNat n - Int.ofNat used)⟩
    | none => ⟨digitsOfNat num, lead⟩

/-- `num / den` rounded to whole multiples of `10 ^ -places`, a half going to the even
neighbour, counted in those multiples. -/
def roundedAt (num den : Nat) (places : Int) : Nat :=
  let (n, d) := overPower num den (-places)
  ((Quotient.mk (Int.ofNat n) d).roundEven).toNat

/-- The first `n` digits (`n ≥ 1`) of a positive quotient, correctly rounded. -/
def significant (num den n : Nat) : Digits :=
  if num = 0 then ⟨List.replicate n 0, 0⟩
  else
    let lead := leadingPower num den
    let d := roundedAt num den (Int.ofNat n - 1 - lead)
    let ds := digitsOfNat d
    if ds.length > n then ⟨ds.take n, lead + 1⟩ else ⟨ds, lead⟩

end Stepwise.Number
