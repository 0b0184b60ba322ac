import Stepwise.Library.Attribute
/-!
# Making values

What calling a class makes: the classes that every program has, and those of scripts.
-/

namespace Stepwise

namespace Making

private def arg (args : List (Option Value)) (i : Nat) : Option Value := (args.getD i none)

/-- At most one argument by position, for a class whose members are made from one value. -/
private def atMostOne (a : Args) (label : String) : Run (Option Value) := do
  a.noNames label
  match a.pos with
  | [] => return none
  | [v] => return some v
  | vs => Run.typeError (label ++ " expected at most 1 argument, got " ++ toString vs.length)

/-! ## Numbers -/

private def makeInt (a : Args) : Run Value := do
  let given := a.pos.length + a.named.length
  if given > 2 then Run.typeError ("int() takes at most 2 arguments (" ++ toString given ++ " given)")
  match a.named.find? (·.1 != "base") with
  | some (k, _) => Run.typeError ("'" ++ k ++ "' is an invalid keyword argument for int()")
  | none => pure ()
  let base := (a.pos[1]?).orElse fun _ => a.named.lookup "base"
  match a.pos.head?, base with
  | none, none => return .int 0
  | none, some _ => Run.typeError "int() missing string argument"
  | some v, none =>
    match ← v.payload with
    | .ref b =>
      match ← Run.load b with
      | .undefined u => failUndefined u
      | _ => return .int (← v.toInt)
    | p => return .int (← p.toInt)
  | some v, some b =>
    let n ← b.index
    if n ≠ 0 && (n < 2 || n > 36) then Run.valueError "int() base must be >= 2 and <= 36, or 0"
    match ← v.payload with
    | .str s | .markup s => return .int (← intOfText n.toNat s.toList (Text.quoted s))
    | .bytes s =>
      return .int (← intOfText n.toNat (s.map fun x => Char.ofNat x.toNat) (Text.quotedBytes s))
    | _ => Run.typeError "int() can't convert non-string with explicit base"

private def makeFloat (a : Args) : Run Value := do
  match ← atMostOne a "float" with
  | none => return .float 0.0
  | some v => return .float (← v.convertToFloat)

/-- A complex number that is written as a text. -/
private def readComplex? (s : List Char) : Option (Float × Float) :=
  let s := Text.trim Text.isBlank s
  let s := match s with
    | '(' :: r => if r.getLast? == some ')' then Text.trim Text.isBlank r.dropLast else s
    | _ => s
  let isSign (c : Char) : Bool := c == '+' || c == '-'
  -- the place where the second part starts: a sign that no exponent owns
  let splits := (List.range s.length).filter fun i =>
    i > 0 && isSign (s.getD i ' ') && !(['e', 'E'].contains (s.getD (i - 1) ' '))
  let imaginary (t : List Char) : Option Float :=
    match t.getLast? with
    | some c =>
      if c == 'j' || c == 'J' then
        match t.dropLast with
        | [] | ['+'] => some 1.0
        | ['-'] => some (-1.0)
        | r => Number.readFloat? r
      else none
    | none => none
  match splits.getLast? with
  | some i =>
    match Number.readFloat? (s.take i), imaginary (s.drop i) with
    | some x, some y => some (x, y)
    | _, _ => none
  | none =>
    match imaginary s with
    | some y => some (0.0, y)
    | none => (Number.readFloat? s).map fun x => (x, 0.0)

private def complexPart (v : Value) (label : String) : Run (Float × Float) := do
  match v with
  | .ref b =>
    match ← Run.load b with
    | .complex x y => return (x, y)
    | _ => Run.typeError (label ++ ", not '" ++ (← v.kindName) ++ "'")
  | .int _ | .bool _ | .float _ => return (← v.toFloat, 0.0)
  | _ => Run.typeError (label ++ ", not '" ++ (← v.kindName) ++ "'")

private def makeComplex (a : Args) : Run Value := do
  let args ← a.bound "complex" ["real", "imag"]
  match arg args 0, arg args 1 with
  | some (.str _), some _ => Run.typeError "complex() can't take second arg if first is a string"
  | some (.str s), none =>
    match readComplex? s.toList with
    | some (x, y) => Run.new (.complex x y)
    | none => Run.valueError "complex() arg is a malformed string"
  | _, some (.str _) => Run.typeError "complex() second arg can't be a string"
  | x, y => do
    let (a, b) ← match x with
      | none => pure (0.0, 0.0)
      | some v => complexPart v "complex() first argument must be a string or a number"
    let (c, d) ← match y with
      | none => pure (0.0, 0.0)
      | some v => complexPart v "complex() second argument must be a number"
    Run.new (.complex (a - d) (b + c))

/-! ## Texts and bytes -/

private def makeText (a : Args) : Run Value := do
  let args ← a.bound "str" ["object", "encoding", "errors"]
  match arg args 0, arg args 1, arg args 2 with
  | none, _, _ => return .str ""
  | some v, none, none => return .str (← v.plain)
  | some v, codec, errors =>
    match ← v.payload with
    | .bytes b => Texts.decode b codec errors "str"
    | .str _ | .markup _ => do
      -- the names are looked at first
      match codec with
      | some (.str _) | none => Run.typeError "decoding str is not supported"
      | some k => Run.typeError ("str() argument 'encoding' must be str, not " ++ (← k.kindName))
    | p =>
      match codec with
      | some (.str _) | none =>
        Run.typeError ("decoding to str: need a bytes-like object, " ++ (← p.kindName) ++ " found")
      | some k => Run.typeError ("str() argument 'encoding' must be str, not " ++ (← k.kindName))

private def makeBytes (m : Machine) (a : Args) : Run Value := do
  let args ← a.bound "bytes" ["source", "encoding", "errors"]
  match arg args 0, arg args 1, arg args 2 with
  | none, none, none => return .bytes []
  | none, _, _ => Run.typeError "encoding without a string argument"
  | some v, none, none =>
    match ← v.payload with
    | .str _ | .markup _ => Run.typeError "string argument without an encoding"
    | .bytes b => return .bytes b
    | .int n =>
      if n < 0 then Run.valueError "negative count"
      else if n ≥ Nat.pow 2 40 then Run.raiseWith "MemoryError" []
      else return .bytes (List.replicate n.toNat 0)
    | .bool b => return .bytes (if b then [0] else [])
    | p =>
      match ← Run.outcome p.reader with
      | .error _ => Run.typeError ("cannot convert '" ++ (← p.kindName) ++ "' object to bytes")
      | .ok r =>
        let xs ← m.drain r
        let bs ← xs.mapM fun x => do
          let n ← x.index
          if 0 ≤ n && n < 256 then return n.toNat.toUInt8
          else Run.valueError "bytes must be in range(0, 256)"
        return .bytes bs
  | some v, codec, errors =>
    match ← v.payload with
    | .str s | .markup s => Texts.encode s codec errors "bytes"
    | _ => Run.typeError "encoding without a string argument"

private def makeMarkup (a : Args) : Run Value := do
  match a.pos.headD (.str "") with
  | .markup s => return .markup s
  | v => return .markup (← v.plain)

/-! ## Sources -/

private def makeRange (a : Args) : Run Value := do
  a.noNames "range"
  let bound (v : Value) : Run Int := v.index
  match a.pos with
  | [] => Run.typeError "range expected at least 1 argument, got 0"
  | [y] => Run.new (.range 0 (← bound y) 1)
  | [x, y] => Run.new (.range (← bound x) (← bound y) 1)
  | [x, y, s] =>
    let x ← bound x
    let y ← bound y
    let s ← bound s
    if s = 0 then Run.valueError "range() arg 3 must not be zero"
    Run.new (.range x y s)
  | vs => Run.typeError ("range expected at most 3 arguments, got " ++ toString vs.length)

private def makeSlice (a : Args) : Run Value := do
  match ← a.between "slice" 1 3 with
  | [some y, none, _] => Run.new (.slice .null y .null)
  | [some x, some y, s] => Run.new (.slice x y (s.getD .null))
  | _ => return .null

private def makeEnumerate (a : Args) : Run Value := do
  match a.named.find? fun (k, _) => k != "iterable" && k != "start" with
  | some (k, _) => Run.typeError ("'" ++ k ++ "' is an invalid keyword argument for enumerate()")
  | none => pure ()
  let given := a.pos.length + a.named.length
  if given > 2 then Run.typeError ("enumerate() takes at most 2 arguments (" ++ toString given ++ " given)")
  match (a.pos.head?).orElse fun _ => a.named.lookup "iterable" with
  | none => Run.typeError "enumerate() missing required argument 'iterable'"
  | some source =>
    let n ← match (a.pos[1]?).orElse fun _ => a.named.lookup "start" with
      | none => pure 0
      | some v => v.index
    Run.new (.cursor "enumerate" (.enumerate (← source.reader) n))

private def makeReversed (a : Args) : Run Value := do
  match ← a.between "reversed" 1 1 with
  | [some v] =>
    let refuse : Run Value := do Run.typeError ("'" ++ (← v.kindName) ++ "' object is not reversible")
    let reading (label : String) (c : Cursor) : Run Value := Run.new (.cursor label c)
    match ← v.payload with
    | .str s => reading "reversed" (.values (s.toList.reverse.map fun c => .str (String.singleton c)))
    | .markup s => reading "reversed" (.values (s.toList.reverse.map fun c => .markup (String.singleton c)))
    | .bytes b => reading "reversed" (.values (b.reverse.map fun x => .int x.toNat))
    | .ref r =>
      match ← Run.load r with
      | .list xs => reading "list_reverseiterator" (.listAt r xs.size true)
      | .tuple _ xs => reading "reversed" (.values xs.reverse)
      | .deque xs _ => reading "_collections._deque_reverse_iterator" (.values xs.reverse)
      | .dict _ d => reading "dict_reversekeyiterator" (.dictAt .keys r d.size d.size true)
      | .view kind d =>
        match ← Run.load d with
        | .dict _ dd =>
          let label := match kind with
            | .keys => "dict_reversekeyiterator"
            | .values => "dict_reversevalueiterator"
            | .items => "dict_reverseitemiterator"
          reading label (.dictAt kind d dd.size dd.size true)
        | _ => refuse
      | .range x y s =>
        let n := rangeSize x y s
        reading "range_iterator" (.range (x + s * (Int.ofNat n - 1)) (-s) n)
      | _ => refuse
    | _ => refuse
  | _ => return .null

private def makeMap (a : Args) : Run Value := do
  a.noNames "map"
  match a.pos with
  | f :: s :: rest => Run.new (.cursor "map" (.map f (← (s :: rest).mapM Value.reader)))
  | _ => Run.typeError "map() must have at least two arguments."

private def makeFilter (a : Args) : Run Value := do
  a.noNames "filter"
  match ← a.between "filter" 2 2 with
  | [some f, some s] => Run.new (.cursor "filter" (.filter f (← s.reader) true))
  | _ => return .null

/-! ## Classes of templates -/

private def ofTemplates (m : Machine) (name : String) (a : Args) : Run Value := do
  match name with
  | "jinja2.utils.Cycler" =>
    match a.named, a.pos with
    | (k, _) :: _, _ => Run.typeError ("Cycler.__init__() got an unexpected keyword argument '" ++ k ++ "'")
    | [], [] => Run.raise "RuntimeError" "at least one item has to be provided"
    | [], vs => Run.new (.cycler vs 0)
  | "jinja2.utils.Joiner" =>
    let given ← a.assignedOf "Joiner.__init__" [] [("sep", .str ", ")]
    Run.new (.joiner ((given.lookup "sep").getD .null) false)
  | _ =>
    let d ← Dict.putAll Dict.empty (← Mappings.givenPairs m "dict" a)
    Run.new (.namespaceObj (d.pairs.filterMap fun (k, v) => k.text?.map fun id => (id, v)))

/-! ## The classes that every program has -/

/-- Calls a class that every program has. -/
def ofClass (m : Machine) (name : String) (a : Args) : Run Value := do
  let below (pre : String) : Option String := (Text.afterStart? pre.toList name.toList).map String.ofList
  match name with
  | "bool" =>
    match ← atMostOne a "bool" with
    | none => return .bool false
    | some v => return .bool (← v.truthy)
  | "int" => makeInt a
  | "float" => makeFloat a
  | "complex" => makeComplex a
  | "str" => makeText a
  | "bytes" => makeBytes m a
  | "markupsafe.Markup" => makeMarkup a
  | "list" =>
    match ← atMostOne a "list" with
    | none => Run.list []
    | some v => Run.list (← m.collect v)
  | "tuple" =>
    match ← atMostOne a "tuple" with
    | none => Run.tuple []
    | some v =>
      match ← Run.object? v with
      | some (.tuple none _) => return v
      | _ => Run.tuple (← m.collect v)
  | "dict" => Run.dict (← Dict.putAll Dict.empty (← Mappings.givenPairs m "dict" a))
  | "set" =>
    match ← atMostOne a "set" with
    | none => Run.new (.set false Dict.empty)
    | some v => Run.new (.set false (← Sets.ofSource m v))
  | "frozenset" =>
    match ← atMostOne a "frozenset" with
    | none => Run.new (.set true Dict.empty)
    | some v =>
      match ← Run.object? v with
      | some (.set true _) => return v
      | _ => Run.new (.set true (← Sets.ofSource m v))
  | "range" => makeRange a
  | "slice" => makeSlice a
  | "enumerate" => makeEnumerate a
  | "reversed" => makeReversed a
  | "map" => makeMap a
  | "filter" => makeFilter a
  | "datetime.date" => Moments.makeDate a
  | "datetime.datetime" => Moments.makeDateTime a
  | "datetime.time" => Moments.makeTime a
  | "datetime.timedelta" => Moments.makeDelta a
  | "datetime.timezone" => Moments.makeZone a
  | "functools.partial" => Functions.makePartial a
  | "string.Template" =>
    match a.pos with
    | [v] => Run.new (.templateText (← v.plain))
    | _ => Run.typeError "Template.__init__() missing 1 required positional argument: 'template'"
  | "jinja2.utils.Cycler" | "jinja2.utils.Joiner" | "jinja2.utils.Namespace" => ofTemplates m name a
  | "jinx.context.ExecutionContext" =>
    return .ref (← Context.ofValue m a.pos.head?)
  | _ =>
    match below "itertools.", below "collections." with
    | some n, _ => Iteration.call m n a
    | none, some n => Collections.make m n a
    | none, none =>
      if Classes.isError name then Errors.make name a
      else Run.typeError ("cannot create '" ++ name ++ "' instances")

/-! ## Classes of scripts -/

/-- Does a class of a script say how its instances start? -/
private def start? (cls : Addr) : Run (Option Value) := classMember? (.ref cls) "__init__"

/-- Calls a class of a script: its instances hold a value of the nearest class that every program has. -/
def ofOwnClass (m : Machine) (cls : Addr) (info : ClassInfo) (a : Args) : Run Value := do
  match info.fields with
  | some fields => Collections.makeRecord cls info.id fields info.members a
  | none =>
    let base ← Attribute.baseOf cls
    let init ← start? cls
    let plain : Args := if init.isSome then ⟨[], []⟩ else a
    let self ← if Classes.isError base then
        match ← makeError (.cls base) a.pos with
        | .error _ args fields => Run.new (.error (.ref cls) args fields)
        | o => Run.new o
      else match base with
        | "object" =>
          if init.isNone && !(a.pos.isEmpty && a.named.isEmpty) then
            Run.typeError (info.id ++ "() takes no arguments")
          Run.new (.instance cls .null)
        | "dict" =>
          Run.new (.dict (.derived cls) (← Dict.putAll Dict.empty (← Mappings.givenPairs m "dict" plain)))
        | "tuple" => do
          match ← recordFields? cls with
          | some (n, fields, defaults) => Collections.makeRecord cls n fields defaults a
          | none => do
            let v ← ofClass m base a
            Run.new (.instance cls v)
        | "list" | "set" => do
          let v ← ofClass m base plain
          Run.new (.instance cls v)
        | _ => do
          let v ← ofClass m base a
          Run.new (.instance cls v)
    match init with
    | none => return self
    | some f =>
      match ← m.call f ⟨self :: a.pos, a.named⟩ with
      | .null => return self
      | r => Run.typeError ("__init__() should return None, not '" ++ (← r.kindName) ++ "'")
where
  /-- The record class above a class. -/
  recordFields? (cls : Addr) : Run (Option (String × List String × List (String × Value))) := do
    let line ← Value.lineage (.ref cls)
    let found ← line.mapM fun c => do
      match ← Run.object? c with
      | some (.cls info) => return info.fields.map fun fs => (info.id, fs, info.members)
      | _ => return none
    return found.findSome? fun x => x

end Making

end Stepwise
