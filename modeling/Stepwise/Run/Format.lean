import Stepwise.Run.Convert
/-!
# Formatted values

The text of a value as a format asks for it: a fill, an alignment, a sign, a width, separators
between digits, a precision and a kind. The older form, in which percent signs mark the places of
values in a text, is `percent`.
-/

namespace Stepwise

/-- What a format asks for. -/
structure FormatSpec where
  fill : Char := ' '
  align : Char
  /-- `-`, `+` or a blank. -/
  sign : Option Char := none
  plainZero : Bool := false
  alternate : Bool := false
  width : Nat := 0
  group : Option Char := none
  precision : Option Nat := none
  kind : Option Char := none
  deriving Inhabited

namespace FormatSpec

private def isAlign (c : Char) : Bool := c == '<' || c == '>' || c == '=' || c == '^'

/-- The largest width or precision. -/
private def maxWidth : Nat := Nat.pow 2 63 - 1

private def number (s : List Char) : Run (Option Nat × List Char) := do
  let ds := s.takeWhile Text.isDecimal
  let n := Number.valueOfDigits 10 (ds.filterMap Text.decimalValue?)
  if n > maxWidth then Run.valueError "Too many decimal digits in format string"
  return (if ds.isEmpty then none else some n, s.drop ds.length)

private def bothSeparators {α : Type} : Run α := Run.valueError "Cannot specify both ',' and '_'."

/-- Reads a format for values of a kind, whose own alignment and letter stand for what is left
out. -/
def read (owner : String) (align : Char) (s : String) : Run FormatSpec := do
  let cs := s.toList
  let spec : FormatSpec := { align := align }
  let (spec, filled, aligned, cs) := match cs with
    | f :: a :: r =>
      if isAlign a then ({ spec with fill := f, align := a }, true, true, r)
      else if isAlign f then ({ spec with align := f }, false, true, a :: r)
      else (spec, false, false, cs)
    | [a] => if isAlign a then ({ spec with align := a }, false, true, []) else (spec, false, false, cs)
    | [] => (spec, false, false, cs)
  let (spec, cs) := match cs with
    | c :: r => if c == '+' || c == '-' || c == ' ' then ({ spec with sign := some c }, r) else (spec, cs)
    | [] => (spec, cs)
  let (spec, cs) := match cs with
    | 'z' :: r => ({ spec with plainZero := true }, r)
    | _ => (spec, cs)
  let (spec, cs) := match cs with
    | '#' :: r => ({ spec with alternate := true }, r)
    | _ => (spec, cs)
  let (spec, cs) := match cs with
    | '0' :: r =>
      if filled then (spec, cs)
      else ({ spec with fill := '0', align := if !aligned && align == '>' then '=' else spec.align }, r)
    | _ => (spec, cs)
  let (width, cs) ← number cs
  let spec := { spec with width := width.getD 0 }
  let (spec, cs) := match cs with
    | ',' :: r => ({ spec with group := some ',' }, r)
    | _ => (spec, cs)
  let (spec, cs) ← match cs with
    | '_' :: r => if spec.group.isSome then bothSeparators else pure ({ spec with group := some '_' }, r)
    | _ => pure (spec, cs)
  match cs with
  | ',' :: _ => if spec.group == some '_' then bothSeparators
  | _ => pure ()
  let (spec, cs) ← match cs with
    | '.' :: r => do
      let (p, r) ← number r
      match p with
      | some p => pure ({ spec with precision := some p }, r)
      | none => Run.valueError "Format specifier missing precision"
    | _ => pure (spec, cs)
  let spec ← match cs with
    | [] => pure spec
    | [c] => pure { spec with kind := some c }
    | _ => Run.valueError ("Invalid format specifier '" ++ s ++ "' for object of type '" ++ owner ++ "'")
  match spec.group with
  | none => return spec
  | some g =>
    let c := spec.kind.getD (if align == '<' then 's' else 'd')
    if ['d', 'e', 'f', 'g', 'E', 'G', '%', 'F'].contains c then return spec
    else if g == '_' && ['b', 'o', 'x', 'X'].contains c then return spec
    else Run.valueError ("Cannot specify '" ++ String.singleton g ++ "' with '" ++ String.singleton c ++ "'.")

/-- Fills a text up to the width. -/
def pad (f : FormatSpec) (s : List Char) : List Char :=
  let n := f.width - s.length
  let fill (k : Nat) : List Char := List.replicate k f.fill
  if f.align == '<' then s ++ fill n
  else if f.align == '^' then fill (n / 2) ++ s ++ fill (n - n / 2)
  else fill n ++ s

/-- Digits in groups from the right, last group first in the accumulator, and zeros in front until
so many places are taken. -/
private def groupLoop (size : Nat) (sep : Char) : Nat → List Char → Nat → List Char → List Char
  | 0, _, _, acc => acc
  | fuel + 1, digits, places, acc =>
    -- the digits come last first
    let n := min size (max (max digits.length places) 1)
    let now := digits.take n
    let acc := List.replicate (n - now.length) '0' ++ now.reverse ++ acc
    let rest := digits.drop n
    let left := places - n
    if rest.isEmpty && left = 0 then acc
    else groupLoop size sep fuel rest (left - 1) (sep :: acc)

/-- Puts a separator between groups of digits. -/
def grouped (size : Nat) (sep : Char) (places : Nat) (digits : List Char) : List Char :=
  groupLoop size sep (digits.length + places + 1) digits.reverse places []

/-- Lays a number out: sign, mark of its base, whole digits, and the rest. -/
def layout (f : FormatSpec) (negative : Bool) (mark digits rest : List Char) (groupSize : Nat) :
    List Char :=
  let sign := if negative then ['-'] else match f.sign with
    | some '+' => ['+']
    | some ' ' => [' ']
    | _ => []
  let head := sign ++ mark
  let inner := f.align == '='
  let digits := match f.group with
    | none => digits
    | some g =>
      if digits.isEmpty then digits
      else
        let places := if f.fill == '0' && inner then f.width - head.length - rest.length else 0
        grouped groupSize g places digits
  if inner then
    head ++ List.replicate (f.width - head.length - digits.length - rest.length) f.fill ++ digits ++ rest
  else pad f (head ++ digits ++ rest)

end FormatSpec

private def unknownKind {α : Type} (c : Char) (owner : String) : Run α :=
  Run.valueError ("Unknown format code '" ++ String.singleton c ++ "' for object of type '" ++ owner ++ "'")

/-- The digits of a number in a base. -/
def digitsIn (base n : Nat) : List Char := Nat.toDigits base n

def asciiUpperChars (s : List Char) : List Char := s.map Char.toUpper

private def formatText (s spec : String) : Run String := do
  let f ← FormatSpec.read "str" '<' spec
  let k := f.kind.getD 's'
  if k != 's' then unknownKind k "str"
  match f.sign with
  | some ' ' => Run.valueError "Space not allowed in string format specifier"
  | some _ => Run.valueError "Sign not allowed in string format specifier"
  | none => pure ()
  if f.plainZero then
    Run.valueError "Negative zero coercion (z) not allowed in string format specifier"
  if f.alternate then Run.valueError "Alternate form (#) not allowed in string format specifier"
  if f.align == '=' then Run.valueError "'=' alignment not allowed in string format specifier"
  let cs := match f.precision with
    | some p => s.toList.take p
    | none => s.toList
  return String.ofList (f.pad cs)

/-- A double by a kind of format, without its sign: the digits in front and the rest. -/
def floatParts (f : FormatSpec) (x : Float) (k : Option Char) : List Char × List Char :=
  let upper := k == some 'E' || k == some 'F' || k == some 'G'
  let body : String :=
    if x.isNaN then "nan"
    else if x.isInf then "inf"
    else
      let a := x.abs
      let p := f.precision.getD 6
      match k.map Char.toLower with
      | some 'e' => Number.scientificText a p f.alternate
      | some 'f' => Number.fixedText a p ++ (if f.alternate && p = 0 then "." else "")
      | some 'g' | some 'n' => Number.generalText a p f.alternate
      | some '%' => Number.fixedText (a * 100.0) p ++ (if f.alternate && p = 0 then "." else "") ++ "%"
      | _ =>
        match f.precision with
        | none => Number.showFloat a
        | some p =>
          let t := Number.generalText a p f.alternate (-1)
          if t.toList.any (fun c => c == '.' || c == 'e') then t else t ++ ".0"
  let cs := if upper then asciiUpperChars body.toList else body.toList
  let whole := cs.takeWhile Char.isDigit
  (whole, cs.drop whole.length)

private def isZeroText (cs : List Char) : Bool :=
  (cs.takeWhile fun c => c != 'e' && c != 'E').all fun c => c == '0' || c == '.' || c == '%'

private def formatFloat (x : Float) (spec : String) : Run String := do
  let f ← FormatSpec.read "float" '>' spec
  match f.kind with
  | some c =>
    if !(['e', 'E', 'f', 'F', 'g', 'G', 'n', '%'].contains c) then unknownKind c "float"
  | none => pure ()
  let (whole, rest) := floatParts f x f.kind
  let negative := Number.isNegative x && !x.isNaN && !(f.plainZero && isZeroText (whole ++ rest))
  return String.ofList (f.layout negative [] whole rest 3)

private def formatInt (n : Int) (spec : String) : Run String := do
  let f ← FormatSpec.read "int" '>' spec
  match f.kind with
  | some c =>
    if ['e', 'E', 'f', 'F', 'g', 'G', '%'].contains c then
      let x ← floatOfInt n
      formatFloat x spec
    else if !(['b', 'c', 'd', 'o', 'x', 'X', 'n'].contains c) then unknownKind c "int"
    else whole f c
  | none => whole f 'd'
where
  whole (f : FormatSpec) (c : Char) : Run String := do
    if f.precision.isSome then Run.valueError "Precision not allowed in integer format specifier"
    if f.plainZero then
      Run.valueError "Negative zero coercion (z) not allowed in integer format specifier"
    if c == 'c' then
      if f.sign.isSome then Run.valueError "Sign not allowed with integer format specifier 'c'"
      if f.alternate then
        Run.valueError "Alternate form (#) not allowed with integer format specifier 'c'"
      if n < 0 || n > 0x10ffff then Run.overflowError "%c arg not in range(0x110000)"
      return String.ofList (f.layout false [] [] [Char.ofNat n.toNat] 3)
    let base := if c == 'b' then 2 else if c == 'o' then 8 else if c == 'x' || c == 'X' then 16 else 10
    let ds ← if base = 10 then do pure (← showInt n.natAbs).toList else pure (digitsIn base n.natAbs)
    let mark := if f.alternate && base ≠ 10 then ['0', c.toLower] else []
    let (mark, ds) := if c == 'X' then (asciiUpperChars mark, asciiUpperChars ds) else (mark, ds)
    return String.ofList (f.layout (n < 0) mark ds [] (if base = 10 then 3 else 4))

/-- The text of a value by a format; an empty format is the plain text. -/
def formatValue (v : Value) (spec : String) : Run String := do
  let v' ← v.payload
  if spec.isEmpty then v.plain
  else match v' with
    | .int n => formatInt n spec
    | .bool b => formatInt (if b then 1 else 0) spec
    | .float x => formatFloat x spec
    | .str s | .markup s => formatText s spec
    | .ref a =>
      match ← Run.load a with
      | .date d => return (Calendar.DateTime.format ⟨d, ⟨0, 0, 0, 0⟩, none⟩ spec.toList)
      | .datetime t => return t.format spec.toList
      | .time t o => return (Calendar.DateTime.format ⟨⟨1900, 1, 1⟩, t, o⟩ spec.toList)
      | .complex re im =>
        let f ← FormatSpec.read "complex" '>' spec
        let part (x : Float) (sign : Bool) : List Char :=
          let (w, r) := floatParts f x f.kind
          (if Number.isNegative x then ['-'] else if sign then ['+'] else []) ++ w ++ r
        return String.ofList (f.pad (part re false ++ part im true ++ ['j']))
      | _ => refuse v
    | _ => refuse v
where
  refuse (v : Value) : Run String := do
    Run.typeError ("unsupported format string passed to " ++ (← v.kindName) ++ ".__format__")

/-! ## Percent signs -/

/-- How percent signs turn values into text. -/
structure Percent where
  /-- The plain text of a value. -/
  plain : Value → Run String
  display : Value → Run String

def Percent.ordinary : Percent := ⟨Value.plain, Value.display⟩

private structure Directive where
  left : Bool := false
  plus : Bool := false
  blank : Bool := false
  alternate : Bool := false
  zero : Bool := false
  width : Nat := 0
  precision : Option Nat := none
  deriving Inhabited

private structure Places where
  /-- Values by position that are left. -/
  rest : List Value
  mapping : Option Value
  /-- A value taken by name, which is the only one left. -/
  named : Option Value := none
  usedNamed : Bool := false

private def Places.next (p : Places) : Run (Value × Places) :=
  match p.named with
  | some v => return (v, { p with named := none })
  | none =>
    match p.rest with
    | v :: r => if p.usedNamed then short else return (v, { p with rest := r })
    | [] => short
where
  short : Run (Value × Places) := Run.typeError "not enough arguments for format string"

private def flags : List Char → Directive → List Char × Directive
  | '-' :: r, d => flags r { d with left := true }
  | '+' :: r, d => flags r { d with plus := true }
  | ' ' :: r, d => flags r { d with blank := true }
  | '#' :: r, d => flags r { d with alternate := true }
  | '0' :: r, d => flags r { d with zero := true }
  | r, d => (r, d)

/-- The name in brackets behind a percent sign, which may hold brackets itself. -/
private def placeName : Nat → List Char → List Char → Option (List Char × List Char)
  | _, [], _ => none
  | depth, c :: r, acc =>
    if c == ')' then
      match depth with
      | 0 => some (acc.reverse, r)
      | n + 1 => placeName n r (c :: acc)
    else if c == '(' then placeName (depth + 1) r (c :: acc)
    else placeName depth r (c :: acc)

private def Directive.finish (d : Directive) (numeric : Bool) (sign body : List Char) : List Char :=
  let n := d.width - sign.length - body.length
  if d.left then sign ++ body ++ List.replicate n ' '
  else if d.zero && numeric then sign ++ List.replicate n '0' ++ body
  else List.replicate n ' ' ++ sign ++ body

private def Directive.signed (d : Directive) (negative : Bool) (mark body : List Char) : List Char :=
  let sign := if negative then ['-'] else if d.plus then ['+'] else if d.blank then [' '] else []
  d.finish true (sign ++ mark) body

private def lengthLimit : Nat := Nat.pow 2 63 - 1

private def count (s : List Char) (what : String) : Run (Nat × List Char) := do
  let ds := s.takeWhile Char.isDigit
  let n := Number.valueOfDigits 10 (ds.map fun c => c.toNat - 48)
  if n > lengthLimit then Run.valueError (what ++ " too big")
  return (n, s.drop ds.length)

private def wholeFor (c : Char) (v : Value) : Run Int := do
  let v' ← v.payload
  match v' with
  | .int n => return n
  | .bool b => return if b then 1 else 0
  | .float x =>
    if c == 'd' then truncateFloat x
    else Run.typeError ("%" ++ String.singleton c ++ " format: an integer is required, not float")
  | _ =>
    let need := if c == 'd' then "a real number" else "an integer"
    Run.typeError ("%" ++ String.singleton c ++ " format: " ++ need ++ " is required, not " ++ (← v.kindName))

private def realFor (v : Value) : Run Float := do
  match ← v.payload with
  | .float x => return x
  | .int n => floatOfInt n
  | .bool b => return if b then 1.0 else 0.0
  | _ => Run.typeError ("must be real number, not " ++ (← v.kindName))

/-- One value at a place. -/
private def place (p : Percent) (d : Directive) (c : Char) (v : Value) : Run (List Char) := do
  let texts (s : String) : List Char :=
    d.finish false [] (match d.precision with
      | some n => s.toList.take n
      | none => s.toList)
  match c with
  | 's' => return texts (← p.plain v)
  | 'r' => return texts (← p.display v)
  | 'a' => return texts (String.ofList (Text.escapeNonAscii (← p.display v).toList))
  | 'c' =>
    match ← v.payload with
    | .int n =>
      if n < 0 || n > 0x10ffff then Run.overflowError "%c arg not in range(0x110000)"
      return d.finish false [] [Char.ofNat n.toNat]
    | .str s | .markup s =>
      if s.length = 1 then return d.finish false [] s.toList else Run.typeError "%c requires int or char"
    | _ => Run.typeError "%c requires int or char"
  | _ =>
    if c == 'd' || c == 'i' || c == 'u' || c == 'o' || c == 'x' || c == 'X' then
      let kind := if c == 'i' || c == 'u' then 'd' else c
      let n ← wholeFor kind v
      let base := if c == 'o' then 8 else if c == 'x' || c == 'X' then 16 else 10
      let ds ← if base = 10 then do pure (← showInt n.natAbs).toList else pure (digitsIn base n.natAbs)
      let ds := if c == 'X' then asciiUpperChars ds else ds
      let ds := List.replicate (d.precision.getD 0 - ds.length) '0' ++ ds
      let mark := if d.alternate && base ≠ 10 then ['0', c] else []
      return d.signed (n < 0) mark ds
    else
      let x ← realFor v
      let f : FormatSpec := { align := '>', alternate := d.alternate, precision := some (d.precision.getD 6) }
      let (whole, rest) := floatParts f x (some c)
      return d.signed (Number.isNegative x && !x.isNaN) [] (whole ++ rest)

private def isPlaceKind (c : Char) : Bool :=
  ['s', 'r', 'a', 'c', 'd', 'i', 'u', 'o', 'x', 'X', 'e', 'E', 'f', 'F', 'g', 'G'].contains c

private def percentLoop (p : Percent) (item : Value → String → Run Value) (whole : Nat) :
    Nat → List Char → Places → List Char → Run (List Char × Places)
  | 0, _, ps, acc => return (acc.reverse, ps)
  | fuel + 1, s, ps, acc => do
    match s with
    | [] => return (acc.reverse, ps)
    | '%' :: '%' :: r => percentLoop p item whole fuel r ps ('%' :: acc)
    | '%' :: r =>
      let (r, ps) ← match r with
        | '(' :: r =>
          match ps.mapping with
          | none => Run.typeError "format requires a mapping"
          | some m =>
            match placeName 0 r [] with
            | none => Run.valueError "incomplete format key"
            | some (name, r) => do
              let v ← item m (String.ofList name)
              pure (r, { ps with named := some v, usedNamed := true, rest := [] })
        | r => pure (r, ps)
      let (r, d) := flags r {}
      let (r, d, ps) ← match r with
        | '*' :: r => do
          let (v, ps) ← ps.next
          match v with
          | .int n => pure (r, { d with left := d.left || n < 0, width := n.natAbs }, ps)
          | _ => Run.typeError "* wants int"
        | r => do
          let (n, r) ← count r "width"
          pure (r, { d with width := n }, ps)
      let (r, d, ps) ← match r with
        | '.' :: '*' :: r => do
          let (v, ps) ← ps.next
          match v with
          | .int n => pure (r, { d with precision := some n.toNat }, ps)
          | _ => Run.typeError "* wants int"
        | '.' :: r => do
          let (n, r) ← count r "precision"
          pure (r, { d with precision := some n }, ps)
        | r => pure (r, d, ps)
      let r := match r with
        | c :: r' => if c == 'h' || c == 'l' || c == 'L' then r' else r
        | [] => r
      match r with
      | [] => Run.valueError "incomplete format"
      | c :: r =>
        let (v, ps) ← ps.next
        if !isPlaceKind c then
          let hex := String.ofList (digitsIn 16 c.toNat)
          Run.valueError ("unsupported format character '" ++ (if Text.isPrintable c then String.singleton c else "?") ++
            "' (0x" ++ hex ++ ") at index " ++ toString (whole - r.length - 1))
        let t ← place p d c v
        percentLoop p item whole fuel r ps (t.reverse ++ acc)
    | c :: r => percentLoop p item whole fuel r ps (c :: acc)

/-- Puts values into the marked places of a text. `item` looks a name up in the operand. -/
def percent (p : Percent) (item : Value → String → Run Value) (text : String) (operand : Value) :
    Run String := do
  let tuple ← operand.tuple?
  let mapping ← isMapping operand
  let ps : Places := match tuple with
    | some vs => { rest := vs, mapping := none }
    | none => { rest := [operand], mapping := if mapping then some operand else none }
  let cs := text.toList
  let (out, left) ← percentLoop p item cs.length (cs.length + 1) cs ps []
  if !left.rest.isEmpty && !mapping then
    Run.typeError "not all arguments converted during string formatting"
  return String.ofList out
where
  isMapping (v : Value) : Run Bool := do
    match v with
    | .bytes _ => return true
    | .ref a =>
      match ← Run.load a with
      | .list _ | .dict .. | .range .. | .match_ .. => return true
      | _ => return false
    | _ => return false

end Stepwise
