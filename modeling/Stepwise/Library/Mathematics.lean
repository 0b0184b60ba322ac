import Stepwise.Library.Arguments
import Stepwise.Run.Arithmetic
/-!
# Mathematical functions

Functions on numbers. What is outside the domain of a function, and what is too large for a
double, is refused in the same words everywhere.
-/

namespace Stepwise.Mathematics

private def outsideDomain {α : Type} : Run α := Run.valueError "math domain error"
private def outsideRange {α : Type} : Run α := Run.overflowError "math range error"

private def infinity : Float := 1.0 / 0.0
private def notANumber : Float := 0.0 / 0.0

def pi : Float := 3.141592653589793

def constants : List (String × Value) :=
  [("pi", .float pi), ("e", .float 2.718281828459045), ("tau", .float 6.283185307179586),
   ("inf", .float infinity), ("nan", .float notANumber)]

/-- A value where a number is wanted. -/
def real (v : Value) : Run Float := do
  match (← v.payload) with
  | .float x => return x
  | .int n => floatOfInt n
  | .bool b => return if b then 1.0 else 0.0
  | v => Run.typeError ("must be real number, not " ++ (← v.kindName))

/-! ## Functions of one number -/

/-- The functions whose result is a number wherever their argument is in their domain. -/
private def ofOne? : String → Option (Float → Float)
  | "acos" => some Float.acos
  | "acosh" => some Float.acosh
  | "asin" => some Float.asin
  | "asinh" => some Float.asinh
  | "atan" => some Float.atan
  | "atanh" => some Float.atanh
  | "cbrt" => some Float.cbrt
  | "cos" => some Float.cos
  | "cosh" => some Float.cosh
  | "exp" => some Float.exp
  | "exp2" => some Float.exp2
  | "sin" => some Float.sin
  | "sinh" => some Float.sinh
  | "sqrt" => some Float.sqrt
  | "tan" => some Float.tan
  | "tanh" => some Float.tanh
  | "fabs" => some Float.abs
  | "degrees" => some fun x => x * (180.0 / pi)
  | "radians" => some fun x => x * (pi / 180.0)
  | _ => none

/-- Applies a function: no number from a number is outside the domain, an infinite result from a
finite number outside the range, or the domain at a pole. -/
private def apply (f : Float → Float) (poles : Bool) (x : Float) : Run Float := do
  let y := f x
  if y.isNaN && !x.isNaN then outsideDomain
  else if y.isInf && !x.isInf then
    if poles then outsideDomain else outsideRange
  else return y

/-- `exp x - 1` without the loss near zero. -/
private def expm1 (x : Float) : Float :=
  if x.abs < 1e-5 then x + x * x / 2.0 + x * x * x / 6.0
  else
    let u := Float.exp x
    if u == 1.0 then x
    else if u - 1.0 == -1.0 then -1.0
    else (u - 1.0) * x / Float.log u

/-- `log (1 + x)` without the loss near zero. -/
private def log1p (x : Float) : Float :=
  let u := 1.0 + x
  if u == 1.0 then x else Float.log u * x / (u - 1.0)

/-! ## Gamma and error functions -/

private def lanczosG : Float := 6.024680040776729583740234375

private def lanczosNumerator : List Float :=
  [23531376880.410759688572007674451636754734846804940, 42919803642.649098768957899047001988850926355848959,
   35711959237.355668049440185451547166705960488635843, 17921034426.037209699919755754458931112671403265390,
   6039542586.3520280050642916443072979210699388420708, 1439720407.3117216736632230727949123939715485786372,
   248874557.86205415651146038641322942321632125127801, 31426415.585400194380614231628318205362874684987640,
   2876370.6289353724412254090516208496135991145378768, 186056.26539522349504029498971604569928220784236328,
   8071.6720023658162106380029022722506138218516325024, 210.82427775157934587250973392071336271166969580291,
   2.5066282746310002701649081771338373386264310793408]

private def lanczosDenominator : List Float :=
  [0.0, 39916800.0, 120543840.0, 150917976.0, 105258076.0, 45995730.0, 13339535.0, 2637558.0, 357423.0,
   32670.0, 1925.0, 66.0, 1.0]

private def lanczosSum (x : Float) : Float :=
  let pairs := lanczosNumerator.zip lanczosDenominator
  let (num, den) :=
    if x < 5.0 then pairs.reverse.foldl (fun (n, d) (a, b) => (n * x + a, d * x + b)) (0.0, 0.0)
    else pairs.foldl (fun (n, d) (a, b) => (n / x + a, d / x + b)) (0.0, 0.0)
  num / den

private def sinPi (x : Float) : Float :=
  let y := Number.truncMod x.abs 2.0
  let n := (2.0 * y).round
  let r :=
    if n == 0.0 then Float.sin (pi * y)
    else if n == 1.0 then Float.cos (pi * (y - 0.5))
    else if n == 2.0 then Float.sin (pi * (1.0 - y))
    else if n == 3.0 then -(Float.cos (pi * (y - 1.5)))
    else Float.sin (pi * (y - 2.0))
  if Number.isNegative x then -r else r

private def factorial : Nat → Nat
  | 0 => 1
  | n + 1 => (n + 1) * factorial n

private def gamma (x : Float) : Run Float := do
  if x.isNaN then return x
  if x.isInf then if x > 0.0 then return x else outsideDomain
  if x == 0.0 then outsideDomain
  match Number.wholeValue? x with
  | some n =>
    if n < 0 then outsideDomain
    if n ≤ 23 then return Float.ofNat (factorial (n.toNat - 1))
  | none => pure ()
  let a := x.abs
  if a < 1e-20 then
    let r := 1.0 / x
    if r.isInf then outsideRange else return r
  if a > 200.0 then
    if x < 0.0 then return 0.0 / sinPi x else outsideRange
  let y := a + lanczosG - 0.5
  let z := if a > lanczosG - 0.5 then (y - a) - (lanczosG - 0.5) else (y - (lanczosG - 0.5)) - a
  let z := z * lanczosG / y
  let r :=
    if x < 0.0 then
      let r := -pi / sinPi a / a * Float.exp y / lanczosSum a
      let r := r - z * r
      if a < 140.0 then r / Float.pow y (a - 0.5)
      else
        let s := Float.pow y (a / 2.0 - 0.25)
        r / s / s
    else
      let r := lanczosSum a / Float.exp y
      let r := r + z * r
      if a < 140.0 then r * Float.pow y (a - 0.5)
      else
        let s := Float.pow y (a / 2.0 - 0.25)
        r * s * s
  if r.isInf then outsideRange else return r

private def logGamma (x : Float) : Run Float := do
  if x.isNaN then return x
  if x.isInf then return infinity
  match Number.wholeValue? x with
  | some n =>
    if n ≤ 0 then outsideDomain
    if n ≤ 2 then return 0.0
  | none => pure ()
  let a := x.abs
  if a < 1e-20 then return -(Float.log a)
  let r := Float.log (lanczosSum a) - lanczosG + (a - 0.5) * (Float.log (a + lanczosG - 0.5) - 1.0)
  let r := if x < 0.0 then Float.log pi - Float.log (sinPi a).abs - Float.log a - r else r
  if r.isInf then outsideRange else return r

private def erfSeries (x : Float) : Float :=
  let x2 := x * x
  let acc := (List.range 25).foldl (fun acc i => 2.0 + x2 * acc / (24.5 - Float.ofNat i + 1.0)) 0.0
  acc * x * Float.exp (-x2) / 1.772453850905516027298167483341145182798

private def erfcFraction (x : Float) : Float :=
  if x ≥ 30.0 then 0.0
  else
    let x2 := x * x
    let step (s : Float × Float × Float × Float × Float × Float) (_ : Nat) :=
      let (a, da, p, p1, q, q1) := s
      let a := a + da
      let da := da + 2.0
      let b := da + x2
      (a, da, b * p - a * p1, p, b * q - a * q1, q)
    let (_, _, p, _, q, _) := (List.range 50).foldl step (0.0, 0.5, 1.0, 0.0, 0.5 + x2, 1.0)
    p / q * x * Float.exp (-x2) / 1.772453850905516027298167483341145182798

private def erf (x : Float) : Float :=
  if x.isNaN then x
  else if x.abs < 1.5 then erfSeries x
  else
    let c := erfcFraction x.abs
    if x > 0.0 then 1.0 - c else c - 1.0

private def erfc (x : Float) : Float :=
  if x.isNaN then x
  else if x.abs < 1.5 then 1.0 - erfSeries x
  else
    let c := erfcFraction x.abs
    if x > 0.0 then c else 2.0 - c

/-! ## Logarithms -/

/-- The logarithm of a value by a function on doubles; whole numbers may be of any size. -/
private def logOf (f : Float → Float) (v : Value) : Run Float := do
  match v.int? with
  | some n =>
    if n ≤ 0 then outsideDomain
    match Number.ofInt? n with
    | some x => return f x
    | none =>
      let bits := Number.bitLength n.natAbs
      let x := Number.nearestOfNat n.natAbs (Nat.pow 2 bits)
      return f x + f 2.0 * Float.ofNat bits
  | none =>
    let x ← real v
    if x.isNaN then return x
    if x.isInf then if x > 0.0 then return x else outsideDomain
    if x ≤ 0.0 then outsideDomain
    return f x

/-! ## Whole numbers -/

private def countArgument (what : String) (v : Value) : Run Nat := do
  let n ← v.index
  if n < 0 then Run.valueError (what ++ " must be a non-negative integer") else return n.toNat

private def fallingFactorial (n k : Nat) : Nat := (List.range k).foldl (fun r i => r * (n - i)) 1

/-- The largest number whose square is not above `n`. -/
def squareRoot (n : Nat) : Nat :=
  if n = 0 then 0
  else
    let rec go : Nat → Nat → Nat
      | 0, x => x
      | fuel + 1, x =>
        let y := (x + n / x) / 2
        if y < x then go fuel y else x
    go (Number.bitLength n + 8) (Nat.pow 2 ((Number.bitLength n + 1) / 2))

/-- Rounds a value to a whole number. -/
private def toWhole (round : Number.Quotient → Int) (v : Value) : Run Value := do
  match v.int? with
  | some n => return .int n
  | none =>
    let x ← real v
    if x.isNaN then Run.valueError "cannot convert float NaN to integer"
    match Number.Quotient.ofFloat? x with
    | some q => return .int (round q)
    | none => Run.overflowError "cannot convert float infinity to integer"

/-! ## Lengths and sums -/

/-- The double nearest to the root of a sum of squares. -/
private def length (xs : List Float) : Float :=
  if xs.any Float.isInf then infinity
  else if xs.any Float.isNaN then notANumber
  else
    let qs := xs.filterMap Number.Quotient.ofFloat?
    let sum := qs.foldl (fun (s : Number.Quotient) q =>
      ⟨s.num * (q.den * q.den) + q.num * q.num * s.den, s.den * q.den * q.den⟩) ⟨0, 1⟩
    -- enough binary digits for the root to be rounded once
    let scale := Nat.pow 2 (2 * (130 + Number.bitLength sum.den))
    let root := squareRoot (sum.num.natAbs * scale / sum.den)
    let exact := root * root * sum.den = sum.num.natAbs * scale
    let side := Nat.pow 2 (130 + Number.bitLength sum.den)
    if exact then Number.nearestOfNat root side else Number.nearestOfNat (2 * root + 1) (2 * side)

/-- The sum of numbers, rounded once. -/
private def exactSum (xs : List Float) : Run Float := do
  if xs.any Float.isNaN then return notANumber
  let up := xs.any fun x => x.isInf && x > 0.0
  let down := xs.any fun x => x.isInf && x < 0.0
  if up && down then Run.valueError "-inf + inf in fsum"
  if up then return infinity
  if down then return -infinity
  let sum := (xs.filterMap Number.Quotient.ofFloat?).foldl (fun (s : Number.Quotient) q =>
    ⟨s.num * q.den + q.num * s.den, s.den * q.den⟩) ⟨0, 1⟩
  return Number.nearest sum

private def steps (x : Float) (up : Bool) : Float :=
  if x == 0.0 then Float.ofBits (if up then 1 else UInt64.ofNat (Nat.pow 2 63 + 1))
  else
    let away := (x > 0.0) == up
    Float.ofBits (if away then x.toBits + 1 else x.toBits - 1)

private def remainder (x y : Float) : Run Float := do
  if x.isNaN then return x
  if y.isNaN then return y
  if x.isInf || y == 0.0 then outsideDomain
  match Number.Quotient.ofFloat? x, Number.Quotient.ofFloat? y with
  | some a, some b =>
    let q : Number.Quotient := if b.num < 0 then ⟨-(a.num * b.den), a.den * b.num.natAbs⟩ else ⟨a.num * b.den, a.den * b.num.natAbs⟩
    let n := q.roundEven
    let r : Number.Quotient := ⟨a.num * b.den - n * b.num * a.den, a.den * b.den⟩
    return if r.num = 0 then (if Number.isNegative x then -0.0 else 0.0) else Number.nearest r
  | _, _ => return x

/-! ## The functions by name -/

def functions : List String :=
  ["acos", "acosh", "asin", "asinh", "atan", "atan2", "atanh", "cbrt", "ceil", "comb", "copysign", "cos",
   "cosh", "degrees", "dist", "erf", "erfc", "exp", "exp2", "expm1", "fabs", "factorial", "floor", "fmod",
   "frexp", "fsum", "gamma", "gcd", "hypot", "isclose", "isfinite", "isinf", "isnan", "isqrt", "lcm", "ldexp",
   "lgamma", "log", "log10", "log1p", "log2", "modf", "nextafter", "perm", "pow", "prod", "radians",
   "remainder", "sin", "sinh", "sqrt", "tan", "tanh", "trunc", "ulp"]

private def two (a : Args) (name : String) : Run (Value × Value) := do
  match ← a.between name 2 2 "math." with
  | [some x, some y] => return (x, y)
  | _ => return (.null, .null)

/-- Calls a mathematical function. -/
def call (m : Machine) (name : String) (a : Args) : Run Value := do
  let label := "math." ++ name
  let oneReal : Run Float := do real (← a.one label)
  match ofOne? name with
  | some f => return .float (← apply f (name == "atanh") (← oneReal))
  | none =>
  match name with
  | "ceil" => toWhole (fun q => -((-q.num).fdiv q.den)) (← a.one label)
  | "floor" => toWhole Number.Quotient.floor (← a.one label)
  | "trunc" =>
    let v ← a.one label
    match v.numeric? with
    | none => Run.typeError ("type " ++ (← v.kindName) ++ " doesn't define __trunc__ method")
    | some _ => toWhole Number.Quotient.truncate v
  | "isnan" => return .bool (← oneReal).isNaN
  | "isinf" => return .bool (← oneReal).isInf
  | "isfinite" => return .bool (← oneReal).isFinite
  | "expm1" => return .float (← apply expm1 false (← oneReal))
  | "log1p" => return .float (← apply log1p true (← oneReal))
  | "gamma" => return .float (← gamma (← oneReal))
  | "lgamma" => return .float (← logGamma (← oneReal))
  | "erf" => return .float (erf (← oneReal))
  | "erfc" => return .float (erfc (← oneReal))
  | "log" =>
    a.noNames label
    match a.pos with
    | [x] => return .float (← logOf Float.log x)
    | [x, b] =>
      let n ← logOf Float.log x
      let d ← logOf Float.log b
      operate .div (.float n) (.float d)
    | _ => Run.typeError "math.log requires 1 to 2 arguments"
  | "log2" => return .float (← logOf Float.log2 (← a.one label))
  | "log10" => return .float (← logOf Float.log10 (← a.one label))
  | "atan2" =>
    let (y, x) ← two a name
    return .float (Float.atan2 (← real y) (← real x))
  | "copysign" =>
    let (x, y) ← two a name
    let x ← real x
    let y ← real y
    return .float (if Number.isNegative x == Number.isNegative y then x else -x)
  | "fmod" =>
    let (x, y) ← two a name
    let x ← real x
    let y ← real y
    if x.isNaN || y.isNaN then return .float notANumber
    if x.isInf || y == 0.0 then outsideDomain
    return .float (Number.truncMod x y)
  | "remainder" =>
    let (x, y) ← two a name
    return .float (← remainder (← real x) (← real y))
  | "pow" =>
    let (x, y) ← two a name
    let x ← real x
    let y ← real y
    let r := Float.pow x y
    if r.isNaN && !x.isNaN && !y.isNaN then outsideDomain
    if r.isInf && x.isFinite && y.isFinite then
      if x == 0.0 then outsideDomain else outsideRange
    return .float r
  | "nextafter" =>
    let (x, y) ← two a name
    let x ← real x
    let y ← real y
    if x.isNaN || y.isNaN then return .float notANumber
    return .float (if x == y then y else steps x (x < y))
  | "ulp" =>
    let x ← oneReal
    let x := x.abs
    if x.isNaN || x.isInf then return .float x
    let up := steps x true
    return .float (if up.isInf then x - steps x false else up - x)
  | "modf" =>
    let x ← oneReal
    if x.isNaN then Run.tuple [.float x, .float x]
    else if x.isInf then Run.tuple [.float (if x > 0.0 then 0.0 else -0.0), .float x]
    else
      let w := if x < 0.0 then x.ceil else x.floor
      let w := if w == 0.0 && Number.isNegative x then -0.0 else w
      let f := x - w
      Run.tuple [.float (if f == 0.0 && Number.isNegative x then -0.0 else f), .float w]
  | "frexp" =>
    let x ← oneReal
    match Number.partsOf x with
    | .finite neg mant e =>
      if mant = 0 then Run.tuple [.float x, .int 0]
      else
        let bits := Number.bitLength mant
        let f := Number.nearestOfNat mant (Nat.pow 2 bits)
        Run.tuple [.float (if neg then -f else f), .int (e + bits)]
    | _ => Run.tuple [.float x, .int 0]
  | "ldexp" =>
    let (x, e) ← two a name
    let x ← real x
    match e.int? with
    | none => Run.typeError "Expected an int as second argument to ldexp."
    | some e =>
      match Number.Quotient.ofFloat? x with
      | none => return .float x
      | some q =>
        if q.num = 0 || e < -5000 then return .float (if Number.isNegative x then -0.0 else 0.0)
        if e > 5000 then outsideRange
        let s := Number.Quotient.ofScaled 1 e
        let r := Number.nearest ⟨q.num * s.num, q.den * s.den⟩
        if r.isInf then outsideRange else return .float r
  | "factorial" =>
    let n ← (← a.one label).index
    if n < 0 then Run.valueError "factorial() not defined for negative values"
    return .int (factorial n.toNat)
  | "isqrt" =>
    let n ← (← a.one label).index
    if n < 0 then Run.valueError "isqrt() argument must be nonnegative"
    return .int (squareRoot n.toNat)
  | "gcd" =>
    a.noNames label
    let ns ← a.pos.mapM Value.index
    return .int (Int.ofNat (ns.foldl (fun g n => Nat.gcd g n.natAbs) 0))
  | "lcm" =>
    a.noNames label
    let ns ← a.pos.mapM Value.index
    return .int (Int.ofNat (ns.foldl (fun g n => Nat.lcm g n.natAbs) 1))
  | "comb" =>
    let (n, k) ← two a name
    let n ← n.index
    let k ← k.index
    let n ← countArgument "n" (.int n)
    let k ← countArgument "k" (.int k)
    if k > n then return .int 0
    let k := min k (n - k)
    return .int (fallingFactorial n k / factorial k)
  | "perm" =>
    match ← a.between name 1 2 "math." with
    | [some n, none] | [some n, some .null] =>
      let n ← n.index
      if n < 0 then Run.valueError "factorial() not defined for negative values"
      return .int (factorial n.toNat)
    | [some n, some k] =>
      let n ← n.index
      let k ← k.index
      let n ← countArgument "n" (.int n)
      let k ← countArgument "k" (.int k)
      return .int (if k > n then 0 else fallingFactorial n k)
    | _ => return .null
  | "fsum" => return .float (← exactSum (← (← m.collect (← a.one label)).mapM real))
  | "hypot" =>
    a.noNames label
    return .float (length (← a.pos.mapM real))
  | "dist" =>
    let (p, q) ← two a name
    let ps ← (← m.collect p).mapM real
    let qs ← (← m.collect q).mapM real
    if ps.length ≠ qs.length then
      Run.valueError "both points must have the same number of dimensions"
    return .float (length ((ps.zip qs).map fun (x, y) => x - y))
  | "prod" =>
    let args ← a.bound name ["iterable", "start"] 1 (some 1)
    let vs ← m.collect ((args.headD none).getD .null)
    vs.foldlM (fun r v => operate .mul r v) ((args.getD 1 none).getD (.int 1))
  | "isclose" =>
    let args ← a.bound name ["a", "b", "rel_tol", "abs_tol"] 2 (some 2)
    let value (i : Nat) (default : Float) : Run Float := do
      match args.getD i none with
      | some v => real v
      | none => return default
    let x ← value 0 0.0
    let y ← value 1 0.0
    let rel ← value 2 1e-9
    let tol ← value 3 0.0
    if rel < 0.0 || tol < 0.0 then Run.valueError "tolerances must be non-negative"
    if x == y then return .bool true
    if x.isInf || y.isInf then return .bool false
    let gap := (y - x).abs
    return .bool (gap ≤ (rel * y).abs || gap ≤ (rel * x).abs || gap ≤ tol)
  | _ => Run.attributeError ("module 'math' has no attribute '" ++ name ++ "'")

end Stepwise.Mathematics
