import Stepwise.Run.Source
import Stepwise.Number.Read
import Stepwise.Text.Html
/-!
# Conversions

Turning one kind of value into another: numbers of texts and of each other, pairs of whatever a
dictionary may be made from, and the question whether a value can be called.
-/

namespace Stepwise

/-- The double nearest to a whole number. -/
def floatOfInt (n : Int) : Run Float :=
  match Number.ofInt? n with
  | some x => return x
  | none => Run.overflowError "int too large to convert to float"

private def asciiChars (b : List UInt8) : List Char := b.map fun x => Char.ofNat x.toNat

/-- A value as a double. -/
def Value.toFloat (v : Value) : Run Float := do
  match v with
  | .float x => return x
  | .int n => floatOfInt n
  | .bool b => return if b then 1.0 else 0.0
  | .str s | .markup s =>
    match Number.readFloat? s.toList with
    | some x => return x
    | none => Run.valueError ("could not convert string to float: " ++ Text.quoted s)
  | .bytes b =>
    match Number.readFloat? (asciiChars b) with
    | some x => return x
    | none => Run.valueError ("could not convert string to float: " ++ Text.quotedBytes b)
  | _ =>
    Run.typeError ("float() argument must be a string or a real number, not '" ++ (← v.kindName) ++ "'")

/-- The double that a call of `float` makes of a value, or of what an instance holds. -/
def Value.convertToFloat (v : Value) : Run Float := do
  match ← Run.object? v with
  | some (.undefined u) => failUndefined u
  | _ =>
    match ← v.payload with
    | .ref _ => v.toFloat
    | p => p.toFloat

/-- The whole part of a double. -/
def truncateFloat (x : Float) : Run Int :=
  if x.isNaN then Run.valueError "cannot convert float NaN to integer"
  else match Number.Quotient.ofFloat? x with
    | some q => return q.truncate
    | none => Run.overflowError "cannot convert float infinity to integer"

/-- A whole number read from a text; `shown` is how messages show the text. -/
def intOfText (base : Nat) (s : List Char) (shown : String) : Run Int :=
  match Number.readInt? base s with
  | some (neg, b, ds) =>
    if ds.length > maxDigits && b ≠ 2 && b ≠ 4 && b ≠ 8 && b ≠ 16 && b ≠ 32 then
      Run.valueError ("Exceeds the limit (" ++ toString maxDigits ++
        " digits) for integer string conversion: value has " ++ toString ds.length ++
        " digits; use sys.set_int_max_str_digits() to increase the limit")
    else
      let n := Int.ofNat (Number.valueOfDigits b ds)
      return if neg then -n else n
  | none => Run.valueError ("invalid literal for int() with base " ++ toString base ++ ": " ++ shown)

/-- A value as a whole number. -/
def Value.toInt (v : Value) : Run Int := do
  match v with
  | .int n => return n
  | .bool b => return if b then 1 else 0
  | .float x => truncateFloat x
  | .str s | .markup s => intOfText 10 s.toList (Text.quoted s)
  | .bytes b => intOfText 10 (asciiChars b) (Text.quotedBytes b)
  | _ =>
    Run.typeError ("int() argument must be a string, a bytes-like object or a real number, not '" ++
      (← v.kindName) ++ "'")

/-- A value where only a whole number will do. -/
def Value.index (v : Value) : Run Int := do
  match (← v.payload).int? with
  | some n => return n
  | none => Run.typeError ("'" ++ (← v.kindName) ++ "' object cannot be interpreted as an integer")

/-- A value where only a number that counts will do, as an index of a sequence is cut to size. -/
def Value.size (v : Value) : Run Int := do
  let n ← v.index
  if n.natAbs ≥ Nat.pow 2 63 then
    Run.overflowError "Python int too large to convert to C ssize_t"
  else return n

/-- The plain text of a value, escaped unless it is escaped already. -/
def escapedText (v : Value) : Run String := do
  match v with
  | .markup s => return s
  | .ref a =>
    match ← Run.load a with
    | .templateModule .. => v.plain
    | _ => return Text.escapeHtml (← v.plain)
  | _ => return Text.escapeHtml (← v.plain)

/-- Can the value be called? -/
def Value.isCallable (v : Value) : Run Bool := do
  match v with
  | .cls _ | .fn _ | .host _ => return true
  | .ref a =>
    match ← Run.load a with
    | .function _ | .method .. | .builtinMethod .. | .cls _ | .partial' .. | .cached ..
    | .macro' _ | .component .. | .joiner .. | .loop _ | .blockRef .. | .fitting .. | .undefined _ =>
      return true
    | _ => return false
  | _ => return false

/-- The pairs that a dictionary can be made from: those of a dictionary, or a source of pairs. -/
def Machine.pairsOf (m : Machine) (v : Value) : Run (List (Value × Value)) := do
  match ← v.dict? with
  | some (_, _, d) => return d.pairs
  | none =>
    let (_, ps) ← m.forEach v ((0, []) : Nat × List (Value × Value)) fun (i, acc) item => do
      let n := "dictionary update sequence element #" ++ toString i
      match ← Run.outcome (m.collect item) with
      | .error e =>
        if ← Value.isSubclass (← Run.errorClass e) (.cls "TypeError") then
          Run.typeError ("cannot convert dictionary update sequence element #" ++ toString i ++
            " to a sequence")
        else Run.raiseObject e
      | .ok [k, x] => return ((i + 1, (k, x) :: acc), true)
      | .ok xs => Run.valueError (n ++ " has length " ++ toString xs.length ++ "; 2 is required")
    return ps.reverse

/-- Writes pairs into a dictionary, first to last. -/
def Dict.putAll (d : Dict) (ps : List (Value × Value)) : Run Dict :=
  ps.foldlM (fun d (k, v) => do return d.put (← k.key) k v) d

/-- Replaces the contents of a dictionary object. -/
def Run.setDict (a : Addr) (d : Dict) : Run Unit :=
  Run.update a fun o => match o with
    | .dict f _ => .dict f d
    | o => o

/-- Writes one item of a dictionary object. -/
def Run.putItem (a : Addr) (k v : Value) : Run Unit := do
  let key ← k.key
  Run.update a fun o => match o with
    | .dict f d => .dict f (d.put key k v)
    | o => o

end Stepwise
