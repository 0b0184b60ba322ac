import Stepwise.Library.Arguments
import Stepwise.Run.Arithmetic
import Stepwise.Text.Quoted
/-!
# Methods of numbers
-/

namespace Stepwise.Numbers

def intMethods : List String :=
  ["as_integer_ratio", "bit_count", "bit_length", "conjugate", "from_bytes", "to_bytes"]

def floatMethods : List String := ["as_integer_ratio", "conjugate", "fromhex", "hex", "is_integer"]

/-- The parts of a number that are read like fields. -/
def intField? (n : Int) : String → Option Value
  | "real" | "numerator" => some (.int n)
  | "imag" => some (.int 0)
  | "denominator" => some (.int 1)
  | _ => none

def floatField? (x : Float) : String → Option Value
  | "real" => some (.float x)
  | "imag" => some (.float 0.0)
  | _ => none

def complexField? (re im : Float) : String → Option Value
  | "real" => some (.float re)
  | "imag" => some (.float im)
  | _ => none

/-! ## Whole numbers as bytes -/

/-- The lowest bytes of a natural number, lowest first. -/
private def lowBytes : Nat → Nat → List UInt8
  | 0, _ => []
  | k + 1, n => (n % 256).toUInt8 :: lowBytes k (n / 256)

private def ofLowBytes : List UInt8 → Nat
  | [] => 0
  | b :: r => b.toNat + 256 * ofLowBytes r

/-- Does the lowest byte come first? -/
private def lowFirst (v : Option Value) (label : String) : Run Bool := do
  match v with
  | none => return false
  | some (.str "big") => return false
  | some (.str "little") => return true
  | some (.str _) => Run.valueError "byteorder must be either 'little' or 'big'"
  | some v =>
    Run.typeError (label ++ "() argument 'byteorder' must be str, not " ++ (← v.kindName))

private def toBytes (n : Int) (a : Args) : Run Value := do
  let args ← a.bound "to_bytes" ["length", "byteorder", "signed"] 0 (some 2)
  let size ← ((args.headD none).getD (.int 1)).size
  if size < 0 then Run.valueError "length argument must be non-negative"
  let little ← lowFirst (args.getD 1 none) "to_bytes"
  let signed ← ((args.getD 2 none).getD (.bool false)).truthy
  let range : Int := Int.ofNat (Nat.pow 256 size.toNat)
  if n < 0 && !signed then Run.overflowError "can't convert negative int to unsigned"
  let fits := if signed then -range ≤ 2 * n && 2 * n < range else n < range
  if !fits then Run.overflowError "int too big to convert"
  let b := lowBytes size.toNat (n.emod range).toNat
  return .bytes (if little then b else b.reverse)

/-- The whole number that bytes stand for. -/
def ofBytes (m : Machine) (a : Args) : Run Value := do
  let args ← a.bound "from_bytes" ["bytes", "byteorder", "signed"] 1 (some 2)
  let b ← match (args.headD none).getD .null with
    | .bytes b => pure b
    | v =>
      if v.text?.isSome || v.numeric?.isSome || v.isNull then
        Run.typeError ("cannot convert '" ++ (← v.kindName) ++ "' object to bytes")
      else (← m.collect v).mapM fun x => do
        let n ← x.index
        if 0 ≤ n && n < 256 then return n.toNat.toUInt8
        else Run.valueError "bytes must be in range(0, 256)"
  let little ← lowFirst (args.getD 1 none) "from_bytes"
  let signed ← ((args.getD 2 none).getD (.bool false)).truthy
  let n := ofLowBytes (if little then b else b.reverse)
  let range := Nat.pow 256 b.length
  return .int (if signed && 2 * n ≥ range && !b.isEmpty then Int.ofNat n - Int.ofNat range else n)

private def bitCount (n : Nat) : Nat :=
  ((List.range (Number.bitLength n)).filter n.testBit).length

/-- Calls a method of a whole number. -/
def callInt (m : Machine) (n : Int) (name : String) (a : Args) : Run Value := do
  let label := "int." ++ name
  match name with
  | "as_integer_ratio" => do a.none label; Run.tuple [.int n, .int 1]
  | "bit_count" => do a.none label; return .int (bitCount n.natAbs)
  | "bit_length" => do a.none label; return .int (Number.bitLength n.natAbs)
  | "conjugate" => do a.none label; return .int n
  | "to_bytes" => toBytes n a
  | "from_bytes" => ofBytes m a
  | _ => Run.attributeError ("'int' object has no attribute '" ++ name ++ "'")

/-! ## Doubles -/

/-- The exact text of a double in base 16. -/
def hexText (x : Float) : String :=
  let sign := if Number.isNegative x then "-" else ""
  match Number.partsOf x with
  | .nan => "nan"
  | .infinite _ => sign ++ "inf"
  | .finite _ mantissa e =>
    if mantissa = 0 then sign ++ "0x0.0p+0"
    else
      let lead := mantissa / Nat.pow 2 52
      let rest := String.ofList (Text.hexPadded 13 (mantissa % Nat.pow 2 52))
      let p := e + 52
      sign ++ "0x" ++ toString lead ++ "." ++ rest ++ "p" ++ (if p < 0 then "-" else "+") ++ toString p.natAbs

private def isBlank (c : Char) : Bool := c == ' ' || (9 ≤ c.toNat && c.toNat ≤ 13)

/-- Reads a double written in base 16. -/
def ofHexText? (s : List Char) : Option Float := do
  let s := Text.trim isBlank s
  let (neg, s) := match s with
    | '-' :: r => (true, r)
    | '+' :: r => (false, r)
    | s => (false, s)
  let low := s.map Char.toLower
  let finish (x : Float) : Float := if neg then -x else x
  match String.ofList low with
  | "inf" | "infinity" => return finish (1.0 / 0.0)
  | "nan" => return finish (0.0 / 0.0)
  | _ =>
    let body := match low with
      | '0' :: 'x' :: r => r
      | r => r
    let isHex (c : Char) : Bool := c.isDigit || ('a' ≤ c && c ≤ 'f')
    let whole := body.takeWhile isHex
    let rest := body.dropWhile isHex
    let (frac, rest) := match rest with
      | '.' :: r => (r.takeWhile isHex, r.dropWhile isHex)
      | r => ([], r)
    if whole.isEmpty && frac.isEmpty then none
    let exponent : Int ← match rest with
      | [] => some 0
      | 'p' :: '-' :: ds => if !ds.isEmpty && ds.all Char.isDigit then some (-(Int.ofNat (String.ofList ds).toNat!)) else none
      | 'p' :: '+' :: ds | 'p' :: ds =>
        if !ds.isEmpty && ds.all Char.isDigit then some (Int.ofNat (String.ofList ds).toNat!) else none
      | _ => none
    let mantissa := Number.valueOfDigits 16 ((whole ++ frac).filterMap Number.digitValue?)
    if mantissa = 0 then return finish 0.0
    -- an exponent far out of range decides on its own
    let e := exponent - 4 * Int.ofNat frac.length
    if e > 5000 then none
    else if e < -100000 then return finish 0.0
    else
      let q := Number.Quotient.ofScaled (Int.ofNat mantissa) e
      return finish (Number.nearest q)

/-- A double as a quotient in lowest terms. -/
private def ratio (x : Float) : Run Value := do
  match Number.Quotient.ofFloat? x with
  | some q =>
    let g := Nat.gcd q.num.natAbs q.den
    Run.tuple [.int (q.num / g), .int (q.den / g)]
  | none =>
    if x.isNaN then Run.valueError "cannot convert NaN to integer ratio"
    else Run.overflowError "cannot convert Infinity to integer ratio"

/-- Reads a double in base 16 from a value. -/
def ofHex (v : Value) : Run Value := do
  match v.text? with
  | none => Run.typeError ("bad argument type for built-in operation")
  | some s =>
    match ofHexText? s.toList with
    | some x => return .float x
    | none => Run.valueError "invalid hexadecimal floating-point string"

/-- Calls a method of a double. -/
def callFloat (x : Float) (name : String) (a : Args) : Run Value := do
  let label := "float." ++ name
  match name with
  | "as_integer_ratio" => do a.none label; ratio x
  | "conjugate" => do a.none label; return .float x
  | "hex" => do a.none label; return .str (hexText x)
  | "is_integer" => do a.none label; return .bool (Number.wholeValue? x).isSome
  | "fromhex" => ofHex (← a.one label)
  | _ => Run.attributeError ("'float' object has no attribute '" ++ name ++ "'")

end Stepwise.Numbers
