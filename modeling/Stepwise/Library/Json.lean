import Stepwise.Library.Arguments
import Stepwise.Library.Sorting
import Stepwise.Library.Texts
import Stepwise.Run.Unpack
/-!
# Values as JSON

Writing values as JSON, with the choices that a call has, and reading them back. A fault of a text
is named with its line, its column and its place.
-/

namespace Stepwise.Json

/-! ## Writing -/

/-- The choices of a call that writes. -/
structure Style where
  asciiOnly : Bool := true
  allowNan : Bool := true
  skipKeys : Bool := false
  sortKeys : Bool := false
  checkCycles : Bool := true
  /-- What one level is moved in by; none for a single line. -/
  indent : Option String := none
  between : String := ", "
  afterKey : String := ": "
  /-- What makes something else of a value that has no JSON. -/
  fallback : Option Value := none
  deriving Inhabited

private def unit (n : Nat) : List Char := '\\' :: 'u' :: Text.hexPadded 4 n

private def escaped (asciiOnly : Bool) (c : Char) : List Char :=
  match c with
  | '"' => ['\\', '"']
  | '\\' => ['\\', '\\']
  | '\n' => ['\\', 'n']
  | '\r' => ['\\', 'r']
  | '\t' => ['\\', 't']
  | '\x08' => ['\\', 'b']
  | '\x0c' => ['\\', 'f']
  | c =>
    let n := c.toNat
    if n < 32 then unit n
    else if !asciiOnly || n < 127 then [c]
    else if n < 0x10000 then unit n
    else
      let r := n - 0x10000
      unit (0xd800 + r / 1024) ++ unit (0xdc00 + r % 1024)

/-- A text in JSON. -/
def quoted (asciiOnly : Bool) (s : String) : String :=
  String.ofList ('"' :: s.toList.flatMap (escaped asciiOnly) ++ ['"'])

private def floatText (style : Style) (x : Float) : Run String := do
  if x.isFinite then return Number.showFloat x
  else if !style.allowNan then Run.valueError "Out of range float values are not JSON compliant"
  else return if x.isNaN then "NaN" else if x > 0.0 then "Infinity" else "-Infinity"

/-- The text of a key; none if the key is to be left out. -/
private def keyText (style : Style) (k : Value) : Run (Option String) := do
  match ← k.payload with
  | .str s | .markup s => return some s
  | .float x => return some (← floatText style x)
  | .bool b => return some (if b then "true" else "false")
  | .null => return some "null"
  | .int n => return some (← showInt n)
  | k =>
    if style.skipKeys then return none
    else Run.typeError ("keys must be str, int, float, bool or None, not " ++ (← k.kindName))

/-- Brackets around parts, each on a line of its own if there is an indentation. -/
private def enclosed (style : Style) (level : Nat) (opening closing : String) (parts : List String) : String :=
  if parts.isEmpty then opening ++ closing
  else match style.indent with
    | none => opening ++ Text.joinWith style.between parts ++ closing
    | some pad =>
      let line (n : Nat) : String := "\n" ++ String.join (List.replicate n pad)
      opening ++ line (level + 1) ++ Text.joinWith (style.between ++ line (level + 1)) parts ++
        line level ++ closing

private def writeAt (m : Machine) (style : Style) : Nat → List Addr → Nat → Value → Run String
  | 0, _, _, _ =>
    Run.raise "RecursionError" "maximum recursion depth exceeded while encoding a JSON object"
  | fuel + 1, inside, level, v => do
    let sub (inside : List Addr) (x : Value) : Run String := writeAt m style fuel inside (level + 1) x
    let enter (a : Addr) : Run (List Addr) := do
      if style.checkCycles && inside.contains a then Run.valueError "Circular reference detected"
      else return a :: inside
    let other (a : Option Addr) : Run String := do
      match style.fallback with
      | none => Run.typeError ("Object of type " ++ (← v.kindName) ++ " is not JSON serializable")
      | some f =>
        let inside ← match a with
          | some a => enter a
          | none => pure inside
        writeAt m style fuel inside level (← m.apply f [v])
    match ← v.payload with
    | .null => return "null"
    | .bool b => return if b then "true" else "false"
    | .int n => showInt n
    | .float x => floatText style x
    | .str s | .markup s => return quoted style.asciiOnly s
    | .ref a =>
      match ← Run.load a with
      | .list xs =>
        let inside ← enter a
        return enclosed style level "[" "]" (← xs.toList.mapM (sub inside))
      | .tuple _ xs =>
        let inside ← enter a
        return enclosed style level "[" "]" (← xs.mapM (sub inside))
      | .dict _ d =>
        let inside ← enter a
        let pairs ← if style.sortKeys then do
            let sorted ← Sorting.sortKeyed m false (d.pairs.map fun (k, x) => (k, x))
            pure sorted
          else pure d.pairs
        let parts ← pairs.filterMapM fun (k, x) => do
          match ← keyText style k with
          | none => return none
          | some t => return some (quoted style.asciiOnly t ++ style.afterKey ++ (← sub inside x))
        return enclosed style level "\x7b" "\x7d" parts
      | _ => other (some a)
    | _ => other none

/-- A value in JSON. -/
def write (m : Machine) (style : Style) (v : Value) : Run String := writeAt m style displayDepth [] 0 v

/-- What one level is moved in by. -/
def indentOf (v : Value) : Run (Option String) := do
  match v with
  | .null => return none
  | .str s | .markup s => return some s
  | v =>
    match v.int? with
    | some n => return some (String.ofList (List.replicate n.toNat ' '))
    | none =>
      Run.typeError ("can't multiply sequence by non-int of type '" ++ (← v.kindName) ++ "'")

private def writeNames : List (String × Value) :=
  [("skipkeys", .bool false), ("ensure_ascii", .bool true), ("check_circular", .bool true),
   ("allow_nan", .bool true), ("cls", .null), ("indent", .null), ("separators", .null),
   ("default", .null), ("sort_keys", .bool false)]

private def unexpected (owner : String) (known : List String) (a : Args) : Run Unit := do
  match a.named.find? (fun (k, _) => !known.contains k) with
  | some (k, _) =>
    Run.typeError (owner ++ ".__init__() got an unexpected keyword argument '" ++ k ++ "'")
  | none => return ()

/-- The style that the arguments of a call ask for. -/
def styleOf (m : Machine) (given : List (String × Value)) : Run Style := do
  let value (n : String) : Value := (given.lookup n).getD .null
  let flag (n : String) : Run Bool := (value n).truthy
  let indent ← indentOf (value "indent")
  let (between, afterKey) ← match value "separators" with
    | .null => pure (if indent.isSome then "," else ", ", ": ")
    | v => do
      let parts ← m.unpack 2 v
      pure (← (parts.headD .null).plain, ← (parts.getD 1 .null).plain)
  return { asciiOnly := ← flag "ensure_ascii", allowNan := ← flag "allow_nan", skipKeys := ← flag "skipkeys",
           sortKeys := ← flag "sort_keys", checkCycles := ← flag "check_circular", indent, between, afterKey,
           fallback := match value "default" with
             | .null => none
             | f => some f }

private def dumps (m : Machine) (a : Args) : Run Value := do
  let known := writeNames.map (·.1)
  let own : Args := ⟨a.pos, a.named.filter fun (k, _) => k == "obj" || known.contains k⟩
  let given ← own.assigned "dumps" ["obj"] [] writeNames
  unexpected "JSONEncoder" ("obj" :: known) a
  return .str (← write m (← styleOf m given) ((given.lookup "obj").getD .null))

/-! ## Reading -/

/-- Why and where a text is not JSON. -/
structure Fault where
  message : String
  position : Nat
  deriving DecidableEq, Inhabited

/-- A document before its values are made. -/
inductive Tree where
  | null
  | bool (b : Bool)
  | int (text : List Char)
  | real (text : List Char)
  /-- A number that has no digits. -/
  | constant (name : String)
  | str (s : String)
  | array (items : List Tree)
  | object (pairs : List (String × Tree))
  deriving Inhabited

/-- What is left of the text, and the place where it starts. -/
structure Rest where
  chars : List Char
  position : Nat
  deriving Inhabited

private def isBlank (c : Char) : Bool := c == ' ' || c == '\t' || c == '\n' || c == '\r'

private def Rest.skip (r : Rest) (n : Nat) : Rest := ⟨r.chars.drop n, r.position + n⟩

private def Rest.skipBlank (r : Rest) : Rest := r.skip (r.chars.takeWhile isBlank).length

private def fail {α : Type} (message : String) (position : Nat) : Except Fault α := .error ⟨message, position⟩

private def hexValue? (ds : List Char) : Option Nat :=
  if ds.length = 4 && ds.all (fun c => c.isDigit || ('a' ≤ c.toLower && c.toLower ≤ 'f')) then
    some (Number.valueOfDigits 16 (ds.filterMap Number.digitValue?))
  else none

/-- The value of the four digits behind `\u`; the text must go on behind them. -/
private def readUnit (r : Rest) : Except Fault Nat :=
  if r.chars.length ≤ 4 then fail "Invalid \\uXXXX escape" (r.position - 1)
  else match hexValue? (r.chars.take 4) with
    | some n => .ok n
    | none => fail "Invalid \\uXXXX escape" (r.position - 1)

private def plainEscape? : Char → Option Char
  | '"' => some '"'
  | '\\' => some '\\'
  | '/' => some '/'
  | 'b' => some '\x08'
  | 'f' => some '\x0c'
  | 'n' => some '\n'
  | 'r' => some '\r'
  | 't' => some '\t'
  | _ => none

/-- The rest of a string behind its opening quote, which stood at `start`. -/
private def readString (strict : Bool) (start : Nat) : Nat → Rest → List Char → Except Fault (String × Rest)
  | 0, _, _ => fail "Unterminated string starting at" start
  | fuel + 1, r, acc =>
    match r.chars with
    | [] => fail "Unterminated string starting at" start
    | '"' :: _ => .ok (String.ofList acc.reverse, r.skip 1)
    | ['\\'] => fail "Unterminated string starting at" start
    | '\\' :: 'u' :: _ => do
      let n ← readUnit (r.skip 2)
      let r' := r.skip 6
      if 0xd800 ≤ n && n < 0xdc00 then
        match r'.chars with
        | '\\' :: 'u' :: ds =>
          match hexValue? (ds.take 4) with
          | some k =>
            if 0xdc00 ≤ k && k < 0xe000 then
              let c := Char.ofNat (0x10000 + (n - 0xd800) * 1024 + (k - 0xdc00))
              readString strict start fuel (r'.skip 6) (c :: acc)
            else readString strict start fuel r' ('\uFFFD' :: acc)
          | none => readString strict start fuel r' ('\uFFFD' :: acc)
        | _ => readString strict start fuel r' ('\uFFFD' :: acc)
      else
        let c := if 0xdc00 ≤ n && n < 0xe000 then '\uFFFD' else Char.ofNat n
        readString strict start fuel r' (c :: acc)
    | '\\' :: c :: _ =>
      match plainEscape? c with
      | some d => readString strict start fuel (r.skip 2) (d :: acc)
      | none => fail "Invalid \\escape" r.position
    | c :: _ =>
      if strict && c.toNat < 32 then fail "Invalid control character at" r.position
      else readString strict start fuel (r.skip 1) (c :: acc)

/-- Splits a number off: its text and whether it is more than a whole number. -/
private def numberText? (s : List Char) : Option (List Char × Bool) :=
  let (sign, s') := match s with
    | '-' :: r => (['-'], r)
    | s => ([], s)
  let whole := match s' with
    | '0' :: _ => ['0']
    | s' => s'.takeWhile Char.isDigit
  if whole.isEmpty then none
  else
    let rest := s'.drop whole.length
    let (frac, rest) := match rest with
      | '.' :: ds =>
        let ds' := ds.takeWhile Char.isDigit
        if ds'.isEmpty then ([], rest) else ('.' :: ds', ds.drop ds'.length)
      | _ => ([], rest)
    let exponent := match rest with
      | e :: ds =>
        if e == 'e' || e == 'E' then
          let (s, ds) := match ds with
            | '+' :: r => (['+'], r)
            | '-' :: r => (['-'], r)
            | ds => ([], ds)
          let ds' := ds.takeWhile Char.isDigit
          if ds'.isEmpty then [] else e :: s ++ ds'
        else []
      | [] => []
    some (sign ++ whole ++ frac ++ exponent, !(frac.isEmpty && exponent.isEmpty))

/-- The words that stand for values. -/
private def words : List (String × Tree) :=
  [("null", .null), ("true", .bool true), ("false", .bool false), ("NaN", .constant "NaN"),
   ("Infinity", .constant "Infinity"), ("-Infinity", .constant "-Infinity")]

private def readWord? (r : Rest) : Option (Tree × Rest) :=
  words.findSome? fun (w, t) =>
    if Text.startsWith w.toList r.chars then some (t, r.skip w.length) else none

mutual

private def readValue (strict : Bool) : Nat → Rest → Except Fault (Tree × Rest)
  | 0, r => fail "Expecting value" r.position
  | fuel + 1, r =>
    match r.chars with
    | '"' :: _ => do
      let (s, r) ← readString strict r.position (r.chars.length + 1) (r.skip 1) []
      return (.str s, r)
    | '[' :: _ =>
      let inner := (r.skip 1).skipBlank
      match inner.chars with
      | ']' :: _ => .ok (.array [], inner.skip 1)
      | _ => readItems strict fuel inner []
    | '\x7b' :: _ =>
      let inner := (r.skip 1).skipBlank
      match inner.chars with
      | '\x7d' :: _ => .ok (.object [], inner.skip 1)
      | _ => readPairs strict fuel inner []
    | _ =>
      match readWord? r with
      | some p => .ok p
      | none =>
        match numberText? r.chars with
        | some (t, isReal) => .ok (if isReal then .real t else .int t, r.skip t.length)
        | none => fail "Expecting value" r.position

private def readItems (strict : Bool) : Nat → Rest → List Tree → Except Fault (Tree × Rest)
  | 0, r, _ => fail "Expecting value" r.position
  | fuel + 1, r, acc => do
    let (t, r) ← readValue strict fuel r
    let r := r.skipBlank
    match r.chars with
    | ']' :: _ => return (.array (t :: acc).reverse, r.skip 1)
    | ',' :: _ => readItems strict fuel (r.skip 1).skipBlank (t :: acc)
    | _ => fail "Expecting ',' delimiter" r.position

private def readPairs (strict : Bool) : Nat → Rest → List (String × Tree) → Except Fault (Tree × Rest)
  | 0, r, _ => fail "Expecting value" r.position
  | fuel + 1, r, acc =>
    match r.chars with
    | '"' :: _ => do
      let (k, r) ← readString strict r.position (r.chars.length + 1) (r.skip 1) []
      let r := r.skipBlank
      match r.chars with
      | ':' :: _ =>
        let (t, r) ← readValue strict fuel (r.skip 1).skipBlank
        let r := r.skipBlank
        match r.chars with
        | '\x7d' :: _ => return (.object ((k, t) :: acc).reverse, r.skip 1)
        | ',' :: _ => readPairs strict fuel (r.skip 1).skipBlank ((k, t) :: acc)
        | _ => fail "Expecting ',' delimiter" r.position
      | _ => fail "Expecting ':' delimiter" r.position
    | _ => fail "Expecting property name enclosed in double quotes" r.position

end

/-- Reads a document. -/
def read (strict : Bool) (s : List Char) : Except Fault Tree := do
  if s.head? == some '\uFEFF' then fail "Unexpected UTF-8 BOM (decode using utf-8-sig)" 0
  let (t, r) ← readValue strict (2 * s.length + 2) (Rest.skipBlank ⟨s, 0⟩)
  let r := r.skipBlank
  if r.chars.isEmpty then return t else fail "Extra data" r.position

/-- The text of a fault, with the line and the column counted from one. -/
def Fault.text (f : Fault) (s : List Char) : String × Nat × Nat :=
  let before := s.take f.position
  let line := (before.filter (· == '\n')).length + 1
  let column := (before.reverse.takeWhile (· != '\n')).length + 1
  (f.message ++ ": line " ++ toString line ++ " column " ++ toString column ++ " (char " ++
    toString f.position ++ ")", line, column)

/-- What a call makes of the parts of a document besides the usual. -/
structure Hooks where
  object : Option Value := none
  pairs : Option Value := none
  int : Option Value := none
  real : Option Value := none
  constant : Option Value := none

private def Hooks.apply (m : Machine) (hook : Option Value) (x : Value) (otherwise : Run Value) : Run Value :=
  match hook with
  | some f => m.apply f [x]
  | none => otherwise

mutual

/-- The value of a document. -/
def Tree.toValue (m : Machine) (h : Hooks) : Tree → Run Value
  | .null => return .null
  | .bool b => return .bool b
  | .int t => Hooks.apply m h.int (.str (String.ofList t)) do
      return .int (← intOfText 10 t (Text.quoted (String.ofList t)))
  | .real t => Hooks.apply m h.real (.str (String.ofList t)) (do
      return .float ((Number.readFloat? t).getD 0.0))
  | .constant n => Hooks.apply m h.constant (.str n) (return .float (match n with
      | "NaN" => 0.0 / 0.0
      | "Infinity" => 1.0 / 0.0
      | _ => -1.0 / 0.0))
  | .str s => return .str s
  | .array ts => do Run.list (← valuesOf m h ts)
  | .object ps => do
    let vs ← pairsOf m h ps
    match h.pairs with
    | some f =>
      let ts ← vs.mapM fun (k, v) => Run.tuple [.str k, v]
      m.apply f [← Run.list ts]
    | none =>
      let d ← Run.dict (Dict.ofTexts vs)
      Hooks.apply m h.object d (return d)

private def valuesOf (m : Machine) (h : Hooks) : List Tree → Run (List Value)
  | [] => return []
  | t :: r => do
    let v ← t.toValue m h
    return v :: (← valuesOf m h r)

private def pairsOf (m : Machine) (h : Hooks) : List (String × Tree) → Run (List (String × Value))
  | [] => return []
  | (k, t) :: r => do
    let v ← t.toValue m h
    return (k, v) :: (← pairsOf m h r)

end

/-- Raises the error for a fault. -/
def raiseFault {α : Type} (f : Fault) (s : List Char) : Run α := do
  let (text, line, column) := f.text s
  Run.raiseWith "json.decoder.JSONDecodeError" [.str text]
    [("msg", .str f.message), ("doc", .str (String.ofList s)), ("pos", .int f.position),
     ("lineno", .int line), ("colno", .int column)]

private def readNames : List (String × Value) :=
  [("cls", .null), ("object_hook", .null), ("parse_float", .null), ("parse_int", .null),
   ("parse_constant", .null), ("object_pairs_hook", .null), ("strict", .bool true)]

private def loads (m : Machine) (a : Args) : Run Value := do
  let known := readNames.map (·.1)
  let own : Args := ⟨a.pos, a.named.filter fun (k, _) => k == "s" || known.contains k⟩
  let given ← own.assigned "loads" ["s"] [] readNames
  let value (n : String) : Value := (given.lookup n).getD .null
  let hook (n : String) : Option Value :=
    match value n with
    | .null => none
    | f => some f
  let s ← match value "s" with
    | .str s | .markup s => pure s.toList
    | .bytes b =>
      match Text.decodeUtf8 b with
      | .ok s => pure s
      | .error f =>
        Run.raiseWith "UnicodeDecodeError"
          [.str "utf-8", .bytes b, .int f.position, .int f.stop, .str f.reason]
    | v =>
      Run.typeError ("the JSON object must be str, bytes or bytearray, not " ++ (← v.kindName))
  unexpected "JSONDecoder" ("s" :: known) a
  match read (← (value "strict").truthy) s with
  | .error f => raiseFault f s
  | .ok t =>
    t.toValue m { object := hook "object_hook", pairs := hook "object_pairs_hook", int := hook "parse_int",
                  real := hook "parse_float", constant := hook "parse_constant" }

def functions : List String := ["dumps", "loads"]

/-- Calls a function of this module. -/
def call (m : Machine) (name : String) (a : Args) : Run Value :=
  match name with
  | "dumps" => dumps m a
  | _ => loads m a

end Stepwise.Json
