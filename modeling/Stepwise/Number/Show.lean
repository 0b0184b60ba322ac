import Stepwise.Number.Digits
/-!
# Writing numbers

The default text of a double has the fewest digits that read back; it is positional for decimal
exponents from -4 up to 15 and scientific outside. The other forms take a number of places.
-/

namespace Stepwise.Number

def digitText (ds : List Nat) : String :=
  String.ofList (ds.map fun d => Char.ofNat (48 + d))

private def zeros (n : Nat) : String := String.ofList (List.replicate n '0')

/-- An exponent with its sign and at least two digits. -/
def exponentText (e : Int) : String :=
  let a := toString e.natAbs
  (if e < 0 then "-" else "+") ++ (if a.length < 2 then "0" ++ a else a)

/-- Digits with the point in its place: `0.001`, `1.5`, `200.0` (or `200` without `point`). -/
def positional (d : Digits) (point : Bool) : String :=
  let n := d.digits.length
  if d.exponent < 0 then
    "0." ++ zeros ((-d.exponent).toNat - 1) ++ digitText d.digits
  else
    let whole := d.exponent.toNat + 1
    if n ≤ whole then
      digitText d.digits ++ zeros (whole - n) ++ (if point then ".0" else "")
    else digitText (d.digits.take whole) ++ "." ++ digitText (d.digits.drop whole)

/-- Digits with the point after the first and an exponent. -/
def scientific (d : Digits) : String :=
  let head := digitText (d.digits.take 1)
  let tail := digitText (d.digits.drop 1)
  (if tail.isEmpty then head else head ++ "." ++ tail) ++ "e" ++ exponentText d.exponent

/-- The default text of a double. -/
def showFloat (x : Float) : String :=
  match partsOf x with
  | .nan => "nan"
  | .infinite neg => if neg then "-inf" else "inf"
  | .finite neg m e =>
    let d := shortest m e
    let body :=
      if -4 ≤ d.exponent && d.exponent < 16 then positional d true else scientific d
    if neg then "-" ++ body else body

/-- The absolute value of a finite double as a quotient of naturals. -/
def absQuotient (x : Float) : Nat × Nat :=
  match Quotient.ofFloat? x with
  | some q => (q.num.natAbs, q.den)
  | none => (0, 1)

/-- A natural number of units `10 ^ -places` in positional form. -/
def fixedOfUnits (units places : Nat) : String :=
  let t := toString units
  if places = 0 then t
  else
    let t := if t.length ≤ places then zeros (places + 1 - t.length) ++ t else t
    let cs := t.toList
    String.ofList (cs.take (cs.length - places)) ++ "." ++ String.ofList (cs.drop (cs.length - places))

/-- A nonnegative finite double with a fixed number of places. -/
def fixedText (x : Float) (places : Nat) : String :=
  let (n, d) := absQuotient x
  fixedOfUnits (roundedAt n d (Int.ofNat places)) places

/-- A nonnegative finite double in scientific form with a fixed number of places. -/
def scientificText (x : Float) (places : Nat) (pointAlways : Bool := false) : String :=
  let (n, d) := absQuotient x
  let ds := significant n d (places + 1)
  let tail := digitText (ds.digits.drop 1)
  digitText (ds.digits.take 1) ++ (if tail.isEmpty then (if pointAlways then "." else "") else "." ++ tail)
    ++ "e" ++ exponentText ds.exponent

/-- A nonnegative finite double with `n` significant digits, in whichever form is shorter;
trailing zeros go unless `keepZeros`. -/
def generalText (x : Float) (precision : Nat) (keepZeros : Bool) (shiftPoint : Int := 0) : String :=
  let p := if precision = 0 then 1 else precision
  let (n, d) := absQuotient x
  let ds := significant n d p
  let trim (l : List Nat) : List Nat := (l.reverse.dropWhile (· == 0)).reverse
  if -4 ≤ ds.exponent && ds.exponent < Int.ofNat p + shiftPoint then
    let whole := ds.exponent + 1
    if whole ≤ 0 then
      let tail := if keepZeros then ds.digits else trim ds.digits
      if tail.isEmpty then (if keepZeros then "0." else "0")
      else "0." ++ zeros (-whole).toNat ++ digitText tail
    else
      let w := whole.toNat
      let head := ds.digits.take w
      let tail := ds.digits.drop w
      let tail := if keepZeros then tail else trim tail
      let head := digitText head ++ zeros (w - head.length)
      if tail.isEmpty then (if keepZeros then head ++ "." else head) else head ++ "." ++ digitText tail
  else
    let tail := ds.digits.drop 1
    let tail := if keepZeros then tail else trim tail
    digitText (ds.digits.take 1) ++
      (if tail.isEmpty then (if keepZeros then "." else "") else "." ++ digitText tail)
      ++ "e" ++ exponentText ds.exponent

/-- The double nearest to `x` with `places` decimal places, a half going to the even neighbour;
negative places round to tens, hundreds and so on. -/
def roundTo (x : Float) (places : Int) : Float :=
  match partsOf x with
  | .finite neg m e =>
    if places > 323 then x
    else if places < -308 then (if neg then -0.0 else 0.0)
    else
      let q := Quotient.ofScaled (Int.ofNat m) e
      let units := roundedAt q.num.natAbs q.den places
      let y := if places ≥ 0 then nearestOfNat units (Nat.pow 10 places.toNat)
        else nearestOfNat (units * Nat.pow 10 (-places).toNat) 1
      if neg then -y else y
  | _ => x

end Stepwise.Number
