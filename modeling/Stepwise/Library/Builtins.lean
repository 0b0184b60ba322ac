import Stepwise.Library.Making
import Stepwise.Markup.Element
/-!
# Functions that need no module

The functions that scripts and templates can call without bringing anything in.
-/

namespace Stepwise.Builtins

/-! ## Numbers -/

private def absolute (v : Value) : Run Value := do
  let bad : Run Value := do Run.typeError ("bad operand type for abs(): '" ++ (← v.kindName) ++ "'")
  match ← v.payload with
  | .int n => return .int n.natAbs
  | .bool b => return .int (if b then 1 else 0)
  | .float x => return .float x.abs
  | .ref a =>
    match ← Run.load a with
    | .complex x y => return .float (Float.sqrt (x * x + y * y))
    | .span s => makeSpan s.micros.natAbs
    | _ => bad
  | _ => bad

private def character (v : Value) : Run Value := do
  let n ← v.index
  if n.natAbs ≥ Nat.pow 2 31 then Run.overflowError "Python int too large to convert to C int"
  if n < 0 || n ≥ 0x110000 then Run.valueError "chr() arg not in range(0x110000)"
  return .str (String.singleton (Char.ofNat n.toNat))

private def ordinal (v : Value) : Run Value := do
  let wrong (n : Nat) : Run Value :=
    Run.typeError ("ord() expected a character, but string of length " ++ toString n ++ " found")
  match ← v.payload with
  | .str s | .markup s =>
    match s.toList with
    | [c] => return .int c.toNat
    | cs => wrong cs.length
  | .bytes b =>
    match b with
    | [x] => return .int x.toNat
    | xs => wrong xs.length
  | _ => Run.typeError ("ord() expected string of length 1, but " ++ (← v.kindName) ++ " found")

private def inBase (base : Nat) (mark : String) (v : Value) : Run Value := do
  let n ← v.index
  return .str ((if n < 0 then "-" else "") ++ mark ++ String.ofList (Nat.toDigits base n.natAbs))

private def quotientAndRest (a b : Value) : Run Value := do
  let x ← a.payload
  let y ← b.payload
  let refuse : Run Value := do
    Run.typeError ("unsupported operand type(s) for divmod(): '" ++ (← a.kindName) ++ "' and '" ++
      (← b.kindName) ++ "'")
  let isSpan (v : Value) : Run Bool := do
    match ← Run.object? v with
    | some (.span _) => return true
    | _ => return false
  match x.numeric?, y.numeric? with
  | some (.whole _), some (.whole n) =>
    if n = 0 then Run.raise "ZeroDivisionError" "integer division or modulo by zero"
    Run.tuple [← operate .floorDiv x y, ← operate .mod x y]
  | some _, some _ =>
    if (← y.toFloat) == 0.0 then Run.raise "ZeroDivisionError" "float divmod()"
    Run.tuple [← operate .floorDiv x y, ← operate .mod x y]
  | _, _ =>
    if (← isSpan x) && (← isSpan y) then Run.tuple [← operate .floorDiv x y, ← operate .mod x y]
    else refuse

/-- The inverse of a number under a modulus, by the method of Euclid. -/
private def inverse? (a m : Nat) : Option Nat :=
  go (2 * (m + a).log2 + 4) a m 1 0
where
  go : Nat → Nat → Nat → Int → Int → Option Nat
    | 0, _, _, _, _ => none
    | fuel + 1, r, s, x, y =>
      if s = 0 then (if r = 1 then some (x % Int.ofNat m).toNat else none)
      else go fuel s (r % s) y (x - Int.ofNat (r / s) * y)

/-- A power under a modulus, by squaring. -/
private def powerMod (m : Nat) : Nat → Nat → Nat → Nat → Nat
  | 0, _, _, acc => acc
  | fuel + 1, base, e, acc =>
    if e = 0 then acc
    else powerMod m fuel (base * base % m) (e / 2) (if e % 2 = 1 then acc * base % m else acc)

private def power (a : Args) : Run Value := do
  let args ← a.bound "pow" ["base", "exp", "mod"] 2
  match args with
  | [some x, some y, m] =>
    match m.getD .null with
    | .null => operate .pow x y
    | z =>
      match x.int?, y.int?, z.int? with
      | some b, some e, some m =>
        if m = 0 then Run.valueError "pow() 3rd argument cannot be 0"
        let n := m.natAbs
        let base := (b % Int.ofNat n).toNat
        let r ← if e ≥ 0 then pure (powerMod n (Number.bitLength e.toNat + 1) base e.toNat (1 % n))
          else match inverse? base n with
            | some i => pure (powerMod n (Number.bitLength e.natAbs + 1) i e.natAbs (1 % n))
            | none => Run.valueError "base is not invertible for the given modulus"
        return .int (if m < 0 && r ≠ 0 then Int.ofNat r + m else r)
      | _, _, _ =>
        let isFloat (v : Value) : Bool := match v with
          | .float _ => true
          | _ => false
        if x.numeric?.isSome && y.numeric?.isSome && z.numeric?.isSome && [x, y, z].any isFloat then
          Run.typeError "pow() 3rd argument not allowed unless all arguments are integers"
        Run.typeError ("unsupported operand type(s) for ** or pow(): '" ++ (← x.kindName) ++ "', '" ++
          (← y.kindName) ++ "', '" ++ (← z.kindName) ++ "'")
  | _ => return .null

/-- Rounds to a number of places, a half to the even neighbour. -/
def round (a : Args) : Run Value := do
  let args ← a.bound "round" ["number", "ndigits"] 1
  let v := (args.headD none).getD .null
  let places ← match (args.getD 1 none).getD .null with
    | .null => pure none
    | p => do pure (some (← p.index))
  match ← v.payload, places with
  | .float x, none =>
    if x.isNaN then Run.valueError "cannot convert float NaN to integer"
    match Number.Quotient.ofFloat? x with
    | some q => return .int q.roundEven
    | none => Run.overflowError "cannot convert float infinity to integer"
  | .float x, some n =>
    let y := Number.roundTo x n
    if y.isInf && !x.isInf then Run.overflowError "rounded value too large to represent"
    return .float y
  | p, n =>
    match p.int? with
    | some k =>
      match n with
      | some n =>
        if n ≥ 0 then return .int k
        else
          let unit : Nat := Nat.pow 10 n.natAbs
          return .int (Number.Quotient.roundEven ⟨k, unit⟩ * Int.ofNat unit)
      | none => return .int k
    | none =>
      Run.typeError ("type " ++ (← v.kindName) ++ " doesn't define __round__ method")

/-! ## Sources -/

/-- The number of members of a value. -/
def size (m : Machine) (v : Value) : Run Value := do
  match ← Loop.sizeOf? v with
  | some n => return .int n
  | none =>
    match ← Run.object? v with
    | some (.loop l) =>
      match v with
      | .ref a => return ((← Loop.field? m a l "length").getD .null)
      | _ => return .null
    | _ => Run.typeError ("object of type '" ++ (← v.kindName) ++ "' has no len()")

/-- Adds the values of a source to a first one. -/
def total (m : Machine) (a : Args) : Run Value := do
  match a.named.find? (·.1 != "start") with
  | some (k, _) => Run.typeError ("'" ++ k ++ "' is an invalid keyword argument for sum()")
  | none => pure ()
  let given := a.pos.length + a.named.length
  match a.pos with
  | [] => Run.typeError "sum() takes at least 1 positional argument (0 given)"
  | source :: rest =>
    if given > 2 then Run.typeError ("sum() takes at most 2 arguments (" ++ toString given ++ " given)")
    let start := ((rest.head?).orElse fun _ => a.named.lookup "start").getD (.int 0)
    let r ← source.reader
    match start with
    | .str _ | .markup _ => Run.typeError "sum() can't sum strings [use ''.join(seq) instead]"
    | .bytes _ => Run.typeError "sum() can't sum bytes [use b''.join(seq) instead]"
    | _ => m.forEach r start fun acc v => do return (← operate .add acc v, true)

/-- The largest or the smallest value. -/
private def extreme (m : Machine) (name : String) (op : Comparison) (a : Args) : Run Value := do
  match a.named.find? fun (k, _) => k != "key" && k != "default" with
  | some (k, _) => Run.typeError ("'" ++ k ++ "' is an invalid keyword argument for " ++ name ++ "()")
  | none => pure ()
  let default := a.named.lookup "default"
  let keyOf (v : Value) : Run Value :=
    match a.named.lookup "key" with
    | none | some .null => return v
    | some f => m.apply f [v]
  let source ← match a.pos with
    | [] => Run.typeError (name ++ " expected at least 1 argument, got 0")
    | [v] => pure v
    | vs =>
      if default.isSome then
        Run.typeError ("Cannot specify a default for " ++ name ++ "() with multiple positional arguments")
      Run.list vs
  let best ← m.forEach source (none : Option (Value × Value)) fun best v => do
    let k ← keyOf v
    match best with
    | none => return (some (k, v), true)
    | some (top, _) =>
      if ← (← m.compare op k top).truthy then return (some (k, v), true) else return (best, true)
  match best, default with
  | some (_, v), _ => return v
  | none, some d => return d
  | none, none => Run.valueError (name ++ "() arg is an empty sequence")

private def every (m : Machine) (want : Bool) (v : Value) : Run Value := do
  let r ← m.forEach v want fun _ x => do
    let b ← x.truthy
    return (b, b == want)
  return .bool r

/-! ## Classes -/

/-- Is a class below one of those that a value names? Tuples name several. -/
private def isBelowAny (cls : Value) (wrong : Run Bool) : Nat → Value → Run Bool
  | 0, _ => wrong
  | fuel + 1, v => do
    match v with
    | .cls _ => Value.isSubclass cls v
    | .ref a =>
      match ← Run.load a with
      | .cls _ => Value.isSubclass cls v
      | .tuple _ vs =>
        let rec go : List Value → Run Bool
          | [] => return false
          | x :: r => do if ← isBelowAny cls wrong fuel x then return true else go r
        go vs
      | _ => wrong
    | .null => wrong
    | _ => wrong

private def isInstance (a : Args) : Run Value := do
  match ← a.between "isinstance" 2 2 with
  | [some v, some c] =>
    let wrong : Run Bool := Run.typeError "isinstance() arg 2 must be a type, a tuple of types, or a union"
    return .bool (← isBelowAny (← Value.classOf v) wrong 100 c)
  | _ => return .null

private def isClass (v : Value) : Run Bool := do
  match v with
  | .cls _ => return true
  | v =>
    match ← Run.object? v with
    | some (.cls _) => return true
    | _ => return false

private def isSubclassOf (a : Args) : Run Value := do
  match ← a.between "issubclass" 2 2 with
  | [some v, some c] =>
    if !(← isClass v) then Run.typeError "issubclass() arg 1 must be a class"
    let wrong : Run Bool :=
      Run.typeError "issubclass() arg 2 must be a class, a tuple of classes, or a union"
    return .bool (← isBelowAny v wrong 100 c)
  | _ => return .null

/-! ## Writing attributes -/

/-- What writing on most values answers. -/
def noAttributes {α : Type} : Run α := Run.typeError "attribute-less object (assign or del)"

private def textName (v : Value) : Run String := do
  match v with
  | .str s | .markup s => return s
  | _ => Run.typeError ("attribute name must be string, not '" ++ (← v.kindName) ++ "'")

private def ownedBy (v : Value) (id : String) : Run Bool := do
  match ← Value.classOf v with
  | .cls n => return (Attribute.methodOwner? n id).isSome
  | _ => return false

/-- Writes an attribute: contexts have attributes, and lists and dictionaries refuse them. -/
def setAttribute (v : Value) (id : String) (x : Value) : Run Unit := do
  match v with
  | .ref a =>
    match ← Run.load a with
    | .dict (.context given) d =>
      if id == "output" then Run.putItem a (.str "output") x
      else
        let given := if (given.lookup id).isSome
          then given.map fun (k, y) => if k == id then (k, x) else (k, y)
          else given ++ [(id, x)]
        Run.save a (.dict (.context given) d)
    | .dict .plain _ | .list _ =>
      let kind ← v.kindName
      if ← ownedBy v id then
        Run.attributeError ("'" ++ kind ++ "' object attribute '" ++ id ++ "' is read-only")
      else Run.attributeError ("'" ++ kind ++ "' object has no attribute '" ++ id ++ "'")
    | _ => noAttributes
  | _ => noAttributes

/-- Deletes an attribute. -/
def deleteAttribute (v : Value) (id : String) : Run Unit := do
  match v with
  | .ref a =>
    match ← Run.load a with
    | .dict (.context given) d =>
      if id == "output" then
        Run.attributeError "property 'output' of 'ExecutionContext' object has no deleter"
      else if (given.lookup id).isSome then
        Run.save a (.dict (.context (given.filter (·.1 != id))) d)
      else Run.attributeError ("'ExecutionContext' object has no attribute '" ++ id ++ "'")
    | .dict .plain _ | .list _ =>
      let kind ← v.kindName
      if ← ownedBy v id then
        Run.attributeError ("'" ++ kind ++ "' object attribute '" ++ id ++ "' is read-only")
      else Run.attributeError ("'" ++ kind ++ "' object has no attribute '" ++ id ++ "'")
    | _ => noAttributes
  | _ => noAttributes

/-! ## The functions -/

private def hash (v : Value) : Run Value := do
  let k ← v.key
  match SetOrder.signedHash? k with
  | some n => return .int n
  | none =>
    match v with
    | .ref a => return .int (a * 16)
    | _ => return .int (k.length + 5000000)

/-- Waits for a value that a call has promised. -/
def await (host : Host) (v : Value) : Run Value := do
  match v with
  | .ref a =>
    match ← Run.load a with
    | .pendingCall id args named spent =>
      if spent then Run.raise "RuntimeError" "cannot reuse already awaited coroutine"
      Run.save a (.pendingCall id args named true)
      host.call id ⟨args, named⟩
    | _ => return v
  | _ => return v

private def isPending (v : Value) : Run Bool := do
  match ← Run.object? v with
  | some (.pendingCall ..) => return true
  | _ => return false

/-- Calls a function that needs no module. -/
def call (m : Machine) (host : Host) (name : String) (a : Args) : Run Value := do
  match name with
  | "abs" => absolute (← a.one name)
  | "all" => every m true (← a.one name)
  | "any" => every m false (← a.one name)
  | "bin" => inBase 2 "0b" (← a.one name)
  | "callable" => return .bool (← (← a.one name).isCallable)
  | "chr" => character (← a.one name)
  | "divmod" =>
    match ← a.between name 2 2 with
    | [some x, some y] => quotientAndRest x y
    | _ => return .null
  | "hash" => hash (← a.one name)
  | "hex" => inBase 16 "0x" (← a.one name)
  | "id" =>
    match ← a.one name with
    | .ref b => return .int (b * 16 + 140000000000000)
    | _ => return .int 140000000000000
  | "isinstance" => isInstance a
  | "issubclass" => isSubclassOf a
  | "len" => size m (← a.one name)
  | "max" => extreme m name .gt a
  | "min" => extreme m name .lt a
  | "oct" => inBase 8 "0o" (← a.one name)
  | "ord" => ordinal (← a.one name)
  | "pow" => power a
  | "repr" => return .str (← (← a.one name).display)
  | "round" => round a
  | "sum" => total m a
  | "setattr" =>
    let given ← a.assigned "guarded_setattr" ["object", "name", "value"] []
    let argument (n : String) : Value := (given.lookup n).getD .null
    setAttribute (argument "object") (← textName (argument "name")) (argument "value")
    return .null
  | "delattr" =>
    let given ← a.assigned "guarded_delattr" ["object", "name"] []
    let argument (n : String) : Value := (given.lookup n).getD .null
    deleteAttribute (argument "object") (← textName (argument "name"))
    return .null
  | "run_async" =>
    let label := "ScriptEngine._create_restricted_globals.<locals>.run_async"
    let given ← a.assigned label ["value"] []
    let v := (given.lookup "value").getD .null
    if !(← isPending v) then return v
    Run.waiting (await host v)
      (Run.raise "RuntimeError" "run_async needs scripts to run in a worker thread (script_run_in_thread)")
  | _ => Run.raise "NameError" ("name '" ++ name ++ "' is not defined")

end Stepwise.Builtins
