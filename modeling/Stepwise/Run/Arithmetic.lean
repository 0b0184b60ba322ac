import Stepwise.Run.Format
import Stepwise.Text.Html
/-!
# Arithmetic

What the operators do with numbers, texts, sequences, sets, dictionaries and moments. Whole numbers
are exact; a quotient of two of them is the double nearest to the true one.
-/

namespace Stepwise

private def zeroDivision {α : Type} (message : String) : Run α :=
  Run.raise "ZeroDivisionError" message

private def tooLarge {α : Type} : Run α :=
  Run.raiseWith "OverflowError" [.int 34, .str "Numerical result out of range"]

/-! ## Whole numbers bit by bit -/

/-- Bitwise operations reach negative numbers through their complements. -/
def bitwise (f : Nat → Nat → Nat) (g : Bool → Bool → Bool) (a b : Int) : Int :=
  -- bits beyond the width repeat the sign
  let width := max (Number.bitLength a.natAbs) (Number.bitLength b.natAbs) + 1
  let m : Int := Int.ofNat (Nat.pow 2 width)
  let x := (a % m).toNat
  let y := (b % m).toNat
  let z : Int := Int.ofNat (f x y % m.toNat)
  if g (a < 0) (b < 0) then z - m else z

def bitAnd : Int → Int → Int := bitwise Nat.land (· && ·)
def bitOr : Int → Int → Int := bitwise Nat.lor (· || ·)
def bitXor : Int → Int → Int := bitwise Nat.xor xor

/-! ## Numbers -/

/-- The quotient of two whole numbers as a double. -/
private def divideInts (a b : Int) : Run Value := do
  if b = 0 then zeroDivision "division by zero"
  let neg := (a < 0) != (b < 0)
  let x := Number.nearestOfNat a.natAbs b.natAbs
  if x.isInf then Run.overflowError "integer division result too large for a float"
  else return .float (if neg && a ≠ 0 then -x else x)

/-- A power of a complex number to a real exponent. -/
private def complexPower (re im e : Float) : Float × Float :=
  let len := Float.pow (Float.sqrt (re * re + im * im)) e
  let phase := Float.atan2 im re * e
  (len * Float.cos phase, len * Float.sin phase)

private def isWholeFloat (x : Float) : Bool := x.floor == x

private def powerFloats (x y : Float) : Run Value := do
  if x == 0.0 && y < 0.0 then zeroDivision "0.0 cannot be raised to a negative power"
  let finite (z : Float) : Bool := !z.isNaN && !z.isInf
  if x < 0.0 && finite x && finite y && !isWholeFloat y then
    let (re, im) := complexPower x 0.0 y
    Run.new (.complex re im)
  else
    let r := Float.pow x y
    if r.isInf && finite x && finite y then tooLarge else return .float r

private def powerInts (a b : Int) : Run Value := do
  if b ≥ 0 then return .int (Int.pow a b.toNat)
  else powerFloats (← floatOfInt a) (← floatOfInt b)

private def shift (left : Bool) (a b : Int) : Run Value := do
  if b < 0 then Run.valueError "negative shift count"
  if left then return .int (a * Int.ofNat (Nat.pow 2 b.toNat))
  else return .int (a.fdiv (Int.ofNat (Nat.pow 2 b.toNat)))

/-- An operator between whole numbers. -/
private def onInts (op : BinaryOp) (a b : Int) : Run (Option Value) := do
  match op with
  | .add => return some (.int (a + b))
  | .sub => return some (.int (a - b))
  | .mul => return some (.int (a * b))
  | .div => return some (← divideInts a b)
  | .floorDiv =>
    if b = 0 then zeroDivision "integer division or modulo by zero" else return some (.int (a.fdiv b))
  | .mod => if b = 0 then zeroDivision "integer modulo by zero" else return some (.int (a.fmod b))
  | .pow => return some (← powerInts a b)
  | .shiftLeft => return some (← shift true a b)
  | .shiftRight => return some (← shift false a b)
  | .bitAnd => return some (.int (bitAnd a b))
  | .bitOr => return some (.int (bitOr a b))
  | .bitXor => return some (.int (bitXor a b))
  | .matMul => return none

private def onFloats (op : BinaryOp) (x y : Float) : Run (Option Value) := do
  match op with
  | .add => return some (.float (x + y))
  | .sub => return some (.float (x - y))
  | .mul => return some (.float (x * y))
  | .div => if y == 0.0 then zeroDivision "float division by zero" else return some (.float (x / y))
  | .floorDiv =>
    if y == 0.0 then zeroDivision "float floor division by zero"
    else return some (.float (Number.floorDivMod x y).1)
  | .mod =>
    if y == 0.0 then zeroDivision "float modulo" else return some (.float (Number.floorDivMod x y).2)
  | .pow => return some (← powerFloats x y)
  | _ => return none

private def onComplex (op : BinaryOp) (a b c d : Float) : Run (Option Value) := do
  let make (re im : Float) : Run (Option Value) := do return some (← Run.new (.complex re im))
  match op with
  | .add => make (a + c) (b + d)
  | .sub => make (a - c) (b - d)
  | .mul => make (a * c - b * d) (a * d + b * c)
  | .div =>
    let n := c * c + d * d
    if n == 0.0 then zeroDivision "complex division by zero"
    else make ((a * c + b * d) / n) ((b * c - a * d) / n)
  | .pow =>
    if d == 0.0 then
      let (re, im) := complexPower a b c
      make re im
    else return none
  | _ => return none

private def complex? (v : Value) : Run (Option (Float × Float)) := do
  match v with
  | .int n => return some (← floatOfInt n, 0.0)
  | .bool b => return some (if b then 1.0 else 0.0, 0.0)
  | .float x => return some (x, 0.0)
  | .ref a =>
    match ← Run.load a with
    | .complex re im => return some (re, im)
    | _ => return none
  | _ => return none

private def isComplex (v : Value) : Run Bool := do
  match v with
  | .ref a =>
    match ← Run.load a with
    | .complex .. => return true
    | _ => return false
  | _ => return false

private def onNumbers (op : BinaryOp) (a b : Value) : Run (Option Value) := do
  match a, b with
  | .bool x, .bool y =>
    match op with
    | .bitAnd => return some (.bool (x && y))
    | .bitOr => return some (.bool (x || y))
    | .bitXor => return some (.bool (xor x y))
    | _ => onInts op (if x then 1 else 0) (if y then 1 else 0)
  | _, _ =>
    match a.int?, b.int? with
    | some x, some y => onInts op x y
    | _, _ =>
      match a.numeric?, b.numeric? with
      | some x, some y =>
        match op with
        | .shiftLeft | .shiftRight | .bitAnd | .bitOr | .bitXor | .matMul => return none
        | _ => onFloats op (← real x) (← real y)
      | _, _ =>
        if (← isComplex a) || (← isComplex b) then
          match ← complex? a, ← complex? b with
          | some (p, q), some (r, s) => onComplex op p q r s
          | _, _ => return none
        else return none
where
  real : Numeric → Run Float
    | .whole n => floatOfInt n
    | .real x => return x

/-! ## Moments -/

private def spanOfFloat (x : Float) : Run Int := do
  match Number.Quotient.ofFloat? x with
  | some q => return q.roundEven
  | none => Run.valueError "cannot convert float NaN to integer"

private def spanLimit : Int := 999999999 * 86400000000

def makeSpan (micros : Int) : Run Value := do
  let days := micros.fdiv 86400000000
  if days.natAbs > 999999999 then
    Run.overflowError ("days=" ++ toString days ++ "; must have magnitude <= 999999999")
  Run.new (.span ⟨micros⟩)

private def outOfRange {α : Type} : Run α := Run.overflowError "date value out of range"

private def plusSpan (o : Obj) (micros : Int) : Run (Option Value) := do
  match o with
  | .date d =>
    match d.plusDays? (micros.fdiv 86400000000) with
    | some d => return some (← Run.new (.date d))
    | none => outOfRange
  | .datetime t =>
    match Calendar.DateTime.ofMicros? (t.micros + micros) t.offset with
    | some t => return some (← Run.new (.datetime t))
    | none => outOfRange
  | .span s => return some (← makeSpan (s.micros + micros))
  | _ => return none

private def onMoments (op : BinaryOp) (a b : Value) : Run (Option Value) := do
  let x ← Run.object? a
  let y ← Run.object? b
  match op, x, y with
  | .add, some o, some (.span s) => plusSpan o s.micros
  | .add, some (.span s), some o => plusSpan o s.micros
  | .sub, some (.span s), some (.span t) => return some (← makeSpan (s.micros - t.micros))
  | .sub, some o, some (.span s) => plusSpan o (-s.micros)
  | .sub, some (.date d), some (.date e) =>
    return some (← makeSpan ((Int.ofNat d.number - Int.ofNat e.number) * 86400000000))
  | .sub, some (.datetime t), some (.datetime u) =>
    if t.offset.isSome != u.offset.isSome then
      Run.typeError "can't subtract offset-naive and offset-aware datetimes"
    else return some (← makeSpan (t.moment - u.moment))
  | .mul, some (.span s), _ => scale s b
  | .mul, _, some (.span s) => scale s a
  | .floorDiv, some (.span s), some (.span t) =>
    if t.micros = 0 then zeroDivision "integer division or modulo by zero"
    else return some (.int (s.micros.fdiv t.micros))
  | .mod, some (.span s), some (.span t) =>
    if t.micros = 0 then zeroDivision "integer modulo by zero"
    else return some (← makeSpan (s.micros.fmod t.micros))
  | .div, some (.span s), some (.span t) => return some (← divideInts s.micros t.micros)
  | .floorDiv, some (.span s), none =>
    match b.int? with
    | some n =>
      if n = 0 then zeroDivision "integer division or modulo by zero"
      else return some (← makeSpan (s.micros.fdiv n))
    | none => return none
  | .div, some (.span s), none =>
    match b with
    | .float f =>
      match Number.Quotient.ofFloat? f with
      | some q =>
        if q.num = 0 then zeroDivision "division by zero"
        else
          let n := s.micros * Int.ofNat q.den * q.num.sign
          return some (← makeSpan (Number.Quotient.roundEven ⟨n, q.num.natAbs⟩))
      | none => return some (← makeSpan 0)
    | _ =>
      match b.int? with
      | some n =>
        if n = 0 then zeroDivision "division by zero"
        else return some (← makeSpan (Number.Quotient.roundEven ⟨s.micros * n.sign, n.natAbs⟩))
      | none => return none
  | _, _, _ => return none
where
  scale (s : Calendar.Span) (v : Value) : Run (Option Value) := do
    match v with
    | .float f =>
      match Number.Quotient.ofFloat? f with
      | some q => return some (← makeSpan (Number.Quotient.roundEven ⟨s.micros * q.num, q.den⟩))
      | none => spanOfFloat f >>= fun n => return some (← makeSpan n)
    | _ =>
      match v.int? with
      | some n => return some (← makeSpan (s.micros * n))
      | none => return none

/-! ## Sets and dictionaries -/

/-- The members of a set or of what is like one. -/
private def members? (v : Value) : Run (Option (Bool × Dict)) := do
  match ← Run.object? v with
  | some (.set frozen d) => return some (frozen, d)
  | some (.view .keys a) =>
    match ← Run.load a with
    | .dict _ d => return some (false, ⟨d.entries.map fun (k, s, _) => (k, s, Value.null)⟩)
    | _ => return none
  | some (.view .items a) =>
    match ← Run.load a with
    | .dict _ d =>
      let es ← d.entries.mapM fun (_, k, x) => do
        let t ← Run.tuple [k, x]
        return (← t.key, t, Value.null)
      return some (false, ⟨es⟩)
    | _ => return none
  | _ => return none

/-- Members of the first that are in the second, or are not. -/
def Dict.keep (d e : Dict) (inside : Bool) : Dict :=
  ⟨d.entries.filter fun (k, _) => (OrderedMap.contains e k) == inside⟩

def Dict.union (d e : Dict) : Dict :=
  e.entries.foldl (fun d (k, s, v) => Dict.put d k s v) d

/-- An operator between sets. -/
def setOperation? (op : BinaryOp) (d e : Dict) : Option Dict :=
  match op with
  | .bitOr => some (d.union e)
  | .bitAnd =>
    -- the smaller one is searched for in the larger one
    some (if OrderedMap.size e > OrderedMap.size d then d.keep e true else e.keep d true)
  | .sub => some (d.keep e false)
  | .bitXor => some ((d.keep e false).union (e.keep d false))
  | _ => none

private def counts (d : Dict) : List (Key × Value × Value) := d.entries

private def positive (v : Value) : Bool :=
  match v with
  | .int n => 0 < n
  | .float x => 0.0 < x
  | _ => true

/-- An operator between tallies: counts that are not positive are left out. -/
private def onCounts (op : BinaryOp) (d e : Dict) : Run (Option Dict) := do
  let count (d : Dict) (k : Key) : Value := (Dict.get? d k).getD (.int 0)
  let combine (f : Value → Value → Run Value) : Run (Option Dict) := do
    let first ← (counts d).mapM fun (k, s, v) => do return (k, s, ← f v (count e k))
    let others := (counts e).filter fun (k, _) => !(OrderedMap.contains d k)
    let second ← others.mapM fun (k, s, v) => do return (k, s, ← f (.int 0) v)
    return some ⟨(first ++ second).filter fun (_, _, v) => positive v⟩
  let least (a b : Value) : Run Value := do
    match a.int?, b.int? with
    | some x, some y => return .int (min x y)
    | _, _ => return a
  let most (a b : Value) : Run Value := do
    match a.int?, b.int? with
    | some x, some y => return .int (max x y)
    | _, _ => return a
  let plus (a b : Value) : Run Value := do return (← onNumbers .add a b).getD a
  let minus (a b : Value) : Run Value := do return (← onNumbers .sub a b).getD a
  match op with
  | .add => combine plus
  | .sub => combine minus
  | .bitAnd => combine least
  | .bitOr => combine most
  | _ => return none

private def onCollections (op : BinaryOp) (a b : Value) : Run (Option Value) := do
  match ← a.dict?, ← b.dict? with
  | some (_, .counter, d), some (_, .counter, e) =>
    match ← onCounts op d e with
    | some r => return some (← Run.new (.dict .counter r))
    | none => return none
  | some (_, f, d), some (_, _, e) =>
    match op with
    | .bitOr =>
      let flavour := match f with
        | .context _ | .derived _ => DictFlavour.plain
        | f => f
      return some (← Run.new (.dict flavour (d.union e)))
    | _ => return none
  | none, none =>
    match ← members? a, ← members? b with
    | some (frozen, d), some (_, e) =>
      match setOperation? op d e with
      | some r => return some (← Run.new (.set frozen r))
      | none => return none
    | _, _ => return none
  | _, _ => return none

/-! ## Texts and sequences -/

/-- Repeats a text or a sequence. -/
private def repeated? (v : Value) (n : Int) : Run (Option Value) := do
  let n := n.toNat
  let times {α : Type} (l : List α) : List α := (List.replicate n l).flatten
  match v with
  | .str s => return some (.str (String.join (List.replicate n s)))
  | .markup s => return some (.markup (String.join (List.replicate n s)))
  | .bytes b => return some (.bytes (times b))
  | .ref a =>
    match ← Run.load a with
    | .list xs => return some (← Run.list (times xs.toList))
    | .tuple _ xs => return some (← Run.tuple (times xs))
    | .deque xs l => return some (← Run.new (.deque (times xs) l))
    | _ => return none
  | _ => return none

def isSequence (v : Value) : Run Bool := do
  match v with
  | .str _ | .markup _ | .bytes _ => return true
  | .ref a =>
    match ← Run.load a with
    | .list _ | .tuple .. | .deque .. => return true
    | _ => return false
  | _ => return false

private def joined? (a b : Value) : Run (Option Value) := do
  match a, b with
  | .str s, .str t => return some (.str (s ++ t))
  | .bytes s, .bytes t => return some (.bytes (s ++ t))
  | .markup s, .markup t => return some (.markup (s ++ t))
  | .markup s, .str t => return some (.markup (s ++ Text.escapeHtml t))
  | .str s, .markup t => return some (.markup (Text.escapeHtml s ++ t))
  | .markup s, .ref i =>
    match ← Run.load i with
    | .undefined u => if u.strict then failUndefined u else return some (.markup s)
    | _ => return none
  | .ref i, .ref j =>
    match ← Run.load i, ← Run.load j with
    | .list xs, .list ys => return some (← Run.new (.list (xs ++ ys)))
    | .tuple _ xs, .tuple _ ys => return some (← Run.tuple (xs ++ ys))
    | .deque xs l, .deque ys _ => return some (← Run.new (.deque (cutTo l (xs ++ ys)) l))
    | _, _ => return none
  | _, _ => return none
where
  /-- The last values, as many as there may be. -/
  cutTo (l : Option Nat) (xs : List Value) : List Value :=
    match l with
    | some n => xs.drop (xs.length - n)
    | none => xs

/-- Looks a name up in a dictionary, for texts with marked places. -/
private def itemOf (nameValue : String → Value) (operand : Value) (name : String) : Run Value := do
  match ← operand.dict? with
  | some (_, f, d) =>
    match Dict.get? d (← (nameValue name).key), f with
    | some v, _ => return v
    | none, .counter => return .int 0
    | none, _ => Run.raiseWith "KeyError" [nameValue name]
  | none => Run.typeError ((← operand.kindName) ++ " indices must be integers or slices, not " ++
      (← (nameValue name).kindName))

private def bytesOfText (s : String) : List UInt8 := s.toList.map fun c => c.toNat.toUInt8
private def textOfBytes (b : List UInt8) : String := String.ofList (b.map fun x => Char.ofNat x.toNat)

private def onTexts (op : BinaryOp) (a b : Value) : Run (Option Value) := do
  match op, a with
  | .mod, .str s => return some (.str (← percent .ordinary (itemOf .str) s b))
  | .mod, .markup s =>
    let p : Percent := ⟨escapedText, fun v => do return Text.escapeHtml (← v.display)⟩
    return some (.markup (← percent p (itemOf .str) s b))
  | .mod, .bytes s =>
    let p : Percent := ⟨fun v => do
      match v with
      | .bytes b => return textOfBytes b
      | v => Run.typeError ("%b requires a bytes-like object, or an object that implements __bytes__, not '" ++
          (← v.kindName) ++ "'"), Value.display⟩
    let shown ← percent p (itemOf fun name => .bytes (bytesOfText name)) (textOfBytes s) b
    return some (.bytes (bytesOfText shown))
  | .add, _ => joined? a b
  | .mul, _ =>
    match b.int?, ← isSequence a with
    | some n, true => repeated? a n
    | _, _ =>
      match a.int?, ← isSequence b with
      | some n, true => repeated? b n
      | _, _ => return none
  | _, _ => return none

/-! ## The operators -/

private def undefined? (v : Value) : Run (Option Undefined) := do
  match ← Run.object? v with
  | some (.undefined u) => return some u
  | _ => return none

private def refusesUndefined : BinaryOp → Bool
  | .add | .sub | .mul | .div | .floorDiv | .mod | .pow => true
  | _ => false

/-- Why an operator does not take its operands. -/
def unsupported (op : BinaryOp) (inPlace : Bool) (a b : Value) : Run Value := do
  let ka ← a.kindName
  let kb ← b.kindName
  let isMarkup : Bool := match a, b with
    | .markup _, _ | _, .markup _ => true
    | _, _ => false
  match op with
  | .add =>
    match a with
    | .str _ =>
      if !isMarkup then Run.typeError ("can only concatenate str (not \"" ++ kb ++ "\") to str")
    | .bytes _ => Run.typeError ("can't concat " ++ kb ++ " to bytes")
    | .ref i =>
      match ← Run.load i with
      | .list _ => Run.typeError ("can only concatenate list (not \"" ++ kb ++ "\") to list")
      | .tuple .. => Run.typeError ("can only concatenate tuple (not \"" ++ kb ++ "\") to tuple")
      | .deque .. => Run.typeError ("can only concatenate deque (not \"" ++ kb ++ "\") to deque")
      | _ => pure ()
    | _ => pure ()
  | .mul =>
    if (← isSequence a) then
      Run.typeError ("can't multiply sequence by non-int of type '" ++ kb ++ "'")
    if (← isSequence b) then
      Run.typeError ("can't multiply sequence by non-int of type '" ++ ka ++ "'")
  | _ => pure ()
  let sign := match op, inPlace with
    | .pow, false => "** or pow()"
    | op, true => op.sign ++ "="
    | op, false => op.sign
  Run.typeError ("unsupported operand type(s) for " ++ sign ++ ": '" ++ ka ++ "' and '" ++ kb ++ "'")

def firstOf (ways : List (Run (Option Value))) (otherwise : Run Value) : Run Value :=
  match ways with
  | [] => otherwise
  | w :: ws => do
    match ← w with
    | some v => return v
    | none => firstOf ws otherwise

/-- The value of two operands under an operator. -/
def operate (op : BinaryOp) (x y : Value) (inPlace : Bool := false) : Run Value := do
  let a ← x.payload
  let b ← y.payload
  let undefinedOperand : Run (Option Value) := do
    if refusesUndefined op then
      match ← undefined? a with
      | some u => failUndefined u
      | none =>
        match ← undefined? b with
        | some u => failUndefined u
        | none => return none
    else return none
  match a, op with
  | .int _, _ | .float _, _ | .bool _, _ =>
    firstOf [onNumbers op a b, onTexts op a b, onMoments op a b, undefinedOperand]
      (unsupported op inPlace x y)
  | .str _, _ | .markup _, _ | .bytes _, _ =>
    firstOf [onTexts op a b, undefinedOperand] (unsupported op inPlace x y)
  | _, _ =>
    firstOf [undefinedOperand, onTexts op a b, onCollections op a b, onMoments op a b, onNumbers op a b]
      (unsupported op inPlace x y)

/-- The value of an operator that may change its left operand, which then is the value. -/
def operateInPlace (m : Machine) (op : BinaryOp) (a b : Value) : Run Value := do
  match a with
  | .ref i =>
    match op, ← Run.load i with
    | .add, .list _ =>
      let new ← m.collect b
      Run.update i fun o => match o with
        | .list xs => .list (xs ++ new.toArray)
        | o => o
      return a
    | .mul, .list xs =>
      match (← b.payload).int? with
      | some n =>
        Run.save i (.list (List.replicate n.toNat xs.toList).flatten.toArray)
        return a
      | none => operate op a b true
    | .add, .deque xs limit =>
      let new ← m.collect b
      let all := xs ++ new
      Run.save i (.deque (match limit with
        | some n => all.drop (all.length - n)
        | none => all) limit)
      return a
    | .bitOr, .dict .counter _ => operate op a b true
    | .bitOr, .dict f d =>
      let ps ← m.pairsOf b
      Run.save i (.dict f (← Dict.putAll d ps))
      return a
    | _, .set false d =>
      match ← Run.object? b with
      | some (.set _ e) =>
        match setOperation? op d e with
        | some r =>
          Run.save i (.set false r)
          return a
        | none => operate op a b true
      | _ => operate op a b true
    | _, _ => operate op a b true
  | _ => operate op a b true

/-- The value of an operator in front of an operand. -/
def operateUnary (op : UnaryOp) (v : Value) : Run Value := do
  let bad : Run Value := do
    Run.typeError ("bad operand type for unary " ++ op.sign ++ ": '" ++ (← v.kindName) ++ "'")
  match op with
  | .negate => return .bool !(← v.truthy)
  | _ =>
    match ← v.payload, op with
    | .int n, .minus => return .int (-n)
    | .int n, .plus => return .int n
    | .int n, .invert => return .int (-n - 1)
    | .bool b, .minus => return .int (if b then -1 else 0)
    | .bool b, .plus => return .int (if b then 1 else 0)
    | .bool b, .invert => return .int (if b then -2 else -1)
    | .float x, .minus => return .float (-x)
    | .float x, .plus => return .float x
    | .ref a, _ =>
      match ← Run.load a, op with
      | .complex re im, .minus => Run.new (.complex (-re) (-im))
      | .complex .., .plus => return v
      | .span s, .minus => makeSpan (-s.micros)
      | .span _, .plus => return v
      | .dict .counter d, .plus =>
        Run.new (.dict .counter ⟨d.entries.filter fun (_, _, c) => positive c⟩)
      | .dict .counter d, .minus =>
        let es ← d.entries.mapM fun (k, s, c) => do return (k, s, (← onNumbers .sub (.int 0) c).getD c)
        Run.new (.dict .counter ⟨es.filter fun (_, _, c) => positive c⟩)
      | .undefined u, .minus | .undefined u, .plus => failUndefined u
      | _, _ => bad
    | _, _ => bad

end Stepwise
