import Stepwise.Library.Texts
/-!
# Methods of byte strings

Byte strings have most of the methods of texts. Their letters, digits and blanks are those of
ASCII; every byte is handled as the character of the same number.
-/

namespace Stepwise.Bytes

open Text

def methods : List String :=
  ["capitalize", "center", "count", "decode", "endswith", "expandtabs", "find", "fromhex", "hex", "index",
   "isalnum", "isalpha", "isascii", "isdigit", "islower", "isspace", "istitle", "isupper", "join", "ljust",
   "lower", "lstrip", "maketrans", "partition", "removeprefix", "removesuffix", "replace", "rfind", "rindex",
   "rjust", "rpartition", "rsplit", "rstrip", "split", "splitlines", "startswith", "strip", "swapcase",
   "title", "translate", "upper", "zfill"]

private def chars (b : List UInt8) : List Char := b.map fun x => Char.ofNat x.toNat
private def bytes (s : List Char) : List UInt8 := s.map fun c => c.toNat.toUInt8

private def isBlank (c : Char) : Bool := c == ' ' || (9 ≤ c.toNat && c.toNat ≤ 13)

private def needBytes {α : Type} (v : Value) : Run α := do
  Run.typeError ("a bytes-like object is required, not '" ++ (← v.kindName) ++ "'")

private def part (v : Value) : Run (List Char) := do
  match v with
  | .bytes b => return chars b
  | _ => needBytes v

/-- What a search looks for: bytes, or the number of a byte. -/
private def sought (v : Value) : Run (List Char) := do
  match v, v.int? with
  | .bytes b, _ => return chars b
  | _, some n =>
    if 0 ≤ n && n < 256 then return [Char.ofNat n.toNat]
    else Run.valueError "byte must be in range(0, 256)"
  | _, none =>
    Run.typeError ("argument should be integer or bytes-like object, not '" ++ (← v.kindName) ++ "'")

private def swap (c : Char) : Char := if c.isUpper then c.toLower else c.toUpper

private def titleFrom (inWord : Bool) : List Char → List Char
  | [] => []
  | c :: r => (if inWord then c.toLower else c.toUpper) :: titleFrom c.isAlpha r

private def capitalize : List Char → List Char
  | [] => []
  | c :: r => c.toUpper :: r.map Char.toLower

private def titleShape : Bool → Bool → List Char → Bool
  | _, seen, [] => seen
  | inWord, seen, c :: r =>
    if c.isUpper then !inWord && titleShape true true r
    else if c.isLower then inWord && titleShape true true r
    else titleShape false seen r

private def question? (name : String) : Option (List Char → Bool) :=
  let every (p : Char → Bool) (s : List Char) : Bool := !s.isEmpty && s.all p
  match name with
  | "isalnum" => some (every Char.isAlphanum)
  | "isalpha" => some (every Char.isAlpha)
  | "isascii" => some fun s => s.all fun c => c.toNat < 128
  | "isdigit" => some (every Char.isDigit)
  | "isspace" => some (every isBlank)
  | "islower" => some fun s => s.any Char.isLower && !s.any Char.isUpper
  | "isupper" => some fun s => s.any Char.isUpper && !s.any Char.isLower
  | "istitle" => some (titleShape false false)
  | _ => none

private def caseChange? (name : String) : Option (List Char → List Char) :=
  match name with
  | "capitalize" => some capitalize
  | "lower" => some (·.map Char.toLower)
  | "swapcase" => some (·.map swap)
  | "title" => some (titleFrom false)
  | "upper" => some (·.map Char.toUpper)
  | _ => none

/-- The digits of bytes, a separator between groups that are counted from the right, or from the
left if the number is negative. -/
private def hexText (b : List UInt8) (sep : String) (group : Int) : String :=
  let pairs := b.map fun x => String.ofList (hexPadded 2 x.toNat)
  let size := group.natAbs
  if sep.isEmpty || size = 0 then joinWith "" pairs
  else
    let lead := if group > 0 then pairs.length % size else 0
    let rec groups : Nat → List String → List String
      | 0, _ => []
      | _, [] => []
      | n + 1, ps => joinWith "" (ps.take size) :: groups n (ps.drop size)
    joinWith sep ((if lead = 0 then [] else [joinWith "" (pairs.take lead)]) ++
      groups (pairs.length + 1) (pairs.drop lead))

/-- Reads bytes written in digits; blanks may stand between them. -/
def ofHex (v : Value) : Run Value := do
  match v.text? with
  | none => Run.typeError ("fromhex() argument must be str, not " ++ (← v.kindName))
  | some s =>
    let refuse (i : Nat) : Run Value :=
      Run.valueError ("non-hexadecimal number found in fromhex() arg at position " ++ toString i)
    let digit (c : Char) : Option Nat := if c.toNat < 128 then Number.digitValue? c else none
    let rec go : Nat → List Char → List UInt8 → Run (List UInt8 ⊕ Nat)
      | _, [], acc => return .inl acc.reverse
      | i, [c], acc =>
        if isBlank c then return .inl acc.reverse
        else return .inr (if ((digit c).filter (· < 16)).isSome then i + 1 else i)
      | i, c :: d :: r, acc =>
        if isBlank c then go (i + 1) (d :: r) acc
        else match (digit c).filter (· < 16), (digit d).filter (· < 16) with
          | some x, some y => go (i + 2) r ((x * 16 + y).toUInt8 :: acc)
          | none, _ => return .inr i
          | some _, none => return .inr (i + 1)
    match ← go 0 s.toList [] with
    | .inl b => return .bytes b
    | .inr i => refuse i

/-- Calls a method of a byte string. -/
def call (m : Machine) (b : List UInt8) (name : String) (a : Args) : Run Value := do
  let s := chars b
  let wrap (cs : List Char) : Value := .bytes (bytes cs)
  let many (parts : List (List Char)) : Run Value := Run.list (parts.map wrap)
  let triple (x y z : List Char) : Run Value := Run.tuple [wrap x, wrap y, wrap z]
  let label := "bytes." ++ name
  match question? name, caseChange? name with
  | some q, _ => do a.none label; return .bool (q s)
  | none, some f => do a.none label; return wrap (f s)
  | none, none =>
  match name with
  | "strip" | "lstrip" | "rstrip" =>
    let args ← a.between name 0 1 "bytes."
    let drop ← match args.headD none with
      | none | some .null => pure isBlank
      | some v => do let cs ← part v; pure (cs.contains ·)
    return wrap (match name with
      | "strip" => trim drop s
      | "lstrip" => trimLeft drop s
      | _ => trimRight drop s)
  | "center" | "ljust" | "rjust" =>
    let args ← a.between name 1 2 "bytes."
    let width ← ((args.headD none).getD .null).size
    let fill ← match args.getD 1 none with
      | none => pure ' '
      | some (.bytes [x]) => pure (Char.ofNat x.toNat)
      | some v =>
        Run.typeError (name ++ "() argument 2 must be a byte string of length 1, not " ++ (← v.kindName))
    return wrap (match name with
      | "center" => centre width.toNat fill s
      | "ljust" => padRight width.toNat fill s
      | _ => padLeft width.toNat fill s)
  | "zfill" => return wrap (zeroFill (← (← a.one label).size).toNat s)
  | "find" | "rfind" | "index" | "rindex" =>
    let (x, lo, hi) ← Texts.searchArguments a name "bytes"
    let pat ← sought x
    match Texts.search s pat (← Texts.window s.length lo hi) (name == "rfind" || name == "rindex") with
    | some i => return .int i
    | none =>
      if name == "find" || name == "rfind" then return .int (-1)
      else Run.valueError "subsection not found"
  | "count" =>
    let (x, lo, hi) ← Texts.searchArguments a name "bytes"
    let pat ← sought x
    match ← Texts.window s.length lo hi with
    | none => return .int 0
    | some w => return .int (countOf pat (Texts.cutOut s w))
  | "startswith" | "endswith" =>
    let (x, lo, hi) ← Texts.searchArguments a name "bytes"
    let w ← Texts.window s.length lo hi
    let fits (pat : List Char) : Bool :=
      match w with
      | none => false
      | some w =>
        let p := Texts.cutOut s w
        if name == "startswith" then startsWith pat p else endsWith pat p
    let bytes? (v : Value) : Option (List Char) :=
      match v with
      | .bytes b => some (chars b)
      | _ => none
    return .bool (← Texts.affixTest name "bytes" bytes? fits x)
  | "replace" =>
    let args ← a.between name 2 3 "bytes."
    let old ← part ((args.headD none).getD .null)
    let new ← part ((args.getD 1 none).getD .null)
    return wrap (replace old new (← Texts.timesArgument (args.getD 2 none)) s)
  | "split" | "rsplit" =>
    let args ← a.bound name ["sep", "maxsplit"]
    let max ← Texts.timesArgument (args.getD 1 none)
    match (args.headD none).getD .null with
    | .null => many (if name == "split" then splitBlank max s isBlank else splitBlankLast max s isBlank)
    | v =>
      let sep ← part v
      if sep.isEmpty then Run.valueError "empty separator"
      many (if name == "split" then splitOn sep max s else splitOnLast sep max s)
  | "splitlines" =>
    let args ← a.bound name ["keepends"]
    let keep ← ((args.headD none).getD (.bool false)).truthy
    many (splitLinesAt (fun c => c == '\n' || c == '\r') keep s)
  | "partition" | "rpartition" =>
    let sep ← part (← a.one label)
    if sep.isEmpty then Run.valueError "empty separator"
    match if name == "partition" then cutFirst sep s else cutLast sep s with
    | some (x, y) => triple x sep y
    | none => if name == "partition" then triple s [] [] else triple [] [] s
  | "join" =>
    let v ← a.one label
    if !(← v.isSource) then Run.typeError "can only join an iterable"
    let vs ← m.collect v
    let parts ← vs.zipIdx.mapM fun (v, i) => do
      match v with
      | .bytes b => return chars b
      | _ => Run.typeError ("sequence item " ++ toString i ++ ": expected a bytes-like object, " ++
          (← v.kindName) ++ " found")
    return wrap (s.intercalate parts)
  | "removeprefix" =>
    let p ← part (← a.one label)
    return wrap ((afterStart? p s).getD s)
  | "removesuffix" =>
    let p ← part (← a.one label)
    return wrap (if !p.isEmpty && endsWith p s then s.take (s.length - p.length) else s)
  | "expandtabs" =>
    let args ← a.bound name ["tabsize"]
    let size ← ((args.headD none).getD (.int 8)).size
    return wrap (expandTabs size.toNat s)
  | "decode" =>
    let args ← a.bound name ["encoding", "errors"]
    Texts.decode b (args.headD none) (args.getD 1 none)
  | "hex" =>
    let args ← a.bound name ["sep", "bytes_per_sep"]
    let sep ← match args.headD none with
      | none => pure ""
      | some (.str t) =>
        if t.length = 1 then pure t else Run.valueError "sep must be length 1."
      | some (.bytes [x]) => pure (String.singleton (Char.ofNat x.toNat))
      | some (.bytes _) => Run.valueError "sep must be length 1."
      | some _ => Run.typeError "sep must be str or bytes."
    let group ← ((args.getD 1 none).getD (.int 1)).size
    return .str (hexText b sep group)
  | "fromhex" => ofHex (← a.one label)
  | "translate" =>
    let args ← a.bound name ["table", "delete"] 1
    let gone ← match args.getD 1 none with
      | some v => part v
      | none => pure []
    let kept := s.filter fun c => !gone.contains c
    match (args.headD none).getD .null with
    | .null => return wrap kept
    | .bytes t =>
      if t.length ≠ 256 then Run.valueError "translation table must be 256 characters long"
      return .bytes (kept.map fun c => t.getD c.toNat 0)
    | v => needBytes v
  | "maketrans" =>
    match ← a.between name 2 2 "bytes." with
    | [some x, some y] =>
      let x ← part x
      let y ← part y
      if x.length ≠ y.length then Run.valueError "maketrans arguments must have same length"
      return .bytes ((List.range 256).map fun n =>
        match (x.zip y).reverse.lookup (Char.ofNat n) with
        | some c => c.toNat.toUInt8
        | none => n.toUInt8)
    | _ => return .null
  | _ => Run.attributeError ("'bytes' object has no attribute '" ++ name ++ "'")

end Stepwise.Bytes
