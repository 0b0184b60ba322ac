import Stepwise.Library.Arguments
import Stepwise.Run.Index
import Stepwise.Text.Case
import Stepwise.Text.Codec
/-!
# Methods of texts

Texts that are escaped already have the same methods: what they make is escaped again, and what
is put into them is escaped first.
-/

namespace Stepwise.Texts

open Text

/-- The methods of texts. -/
def methods : List String :=
  ["capitalize", "casefold", "center", "count", "encode", "endswith", "expandtabs", "find", "format",
   "format_map", "index", "isalnum", "isalpha", "isascii", "isdecimal", "isdigit", "isidentifier",
   "islower", "isnumeric", "isprintable", "isspace", "istitle", "isupper", "join", "ljust", "lower",
   "lstrip", "maketrans", "partition", "removeprefix", "removesuffix", "replace", "rfind", "rindex",
   "rjust", "rpartition", "rsplit", "rstrip", "split", "splitlines", "startswith", "strip", "swapcase",
   "title", "translate", "upper", "zfill"]

/-- The methods that only escaped texts have. -/
def markupMethods : List String := ["escape", "striptags", "unescape"]

/-! ## Arguments -/

def mustBe {α : Type} (what : String) (v : Value) : Run α := do
  Run.typeError ("must be " ++ what ++ ", not " ++ (← v.kindName))

def textArgument (v : Value) : Run (List Char) := do
  match (← v.payload).text? with
  | some s => return s.toList
  | none => mustBe "str" v

private def numbered (label : String) (n : Nat) (v : Value) : Run (List Char) := do
  match (← v.payload).text? with
  | some s => return s.toList
  | none =>
    Run.typeError (label ++ "() argument " ++ toString n ++ " must be str, not " ++ (← v.kindName))

/-- A character to fill with; a blank if none is given. -/
private def fillArgument (v : Option Value) : Run Char := do
  match v with
  | none => return ' '
  | some v =>
    match v.text? with
    | some s =>
      match s.toList with
      | [c] => return c
      | _ => Run.typeError "The fill character must be exactly one character long"
    | none => Run.typeError ("The fill character must be a unicode character, not " ++ (← v.kindName))

/-- The part of a sequence that a search looks at. -/
def window (size : Nat) (lo hi : Option Value) : Run (Option (Nat × Nat)) := do
  let a ← sliceBound (lo.getD .null)
  let b ← sliceBound (hi.getD .null)
  let n := Int.ofNat size
  let cut (i : Int) : Int := if i < 0 then max 0 (i + n) else i
  let stop := min n (cut (b.getD n))
  let start := cut (a.getD 0)
  if start > stop then return none else return some (start.toNat, stop.toNat)

/-- How often to do something: a negative number means always. -/
def timesArgument (v : Option Value) : Run (Option Nat) := do
  match v with
  | none => return none
  | some v =>
    let n ← v.size
    return if n < 0 then none else some n.toNat

/-- Is a part at the start or at the end of one of the texts that a call names? -/
def affixTest {α : Type} (label want : String) (part? : Value → Option α) (fits : α → Bool)
    (v : Value) : Run Bool := do
  match part? v with
  | some p => return fits p
  | none =>
    match ← v.tuple? with
    | some vs =>
      vs.anyM fun v => do
        match part? v with
        | some p => return fits p
        | none =>
          if want == "str" then
            Run.typeError ("tuple for " ++ label ++ " must only contain str, not " ++ (← v.kindName))
          else Run.typeError ("a bytes-like object is required, not '" ++ (← v.kindName) ++ "'")
    | none =>
      Run.typeError (label ++ " first arg must be " ++ want ++ " or a tuple of " ++ want ++ ", not " ++
        (← v.kindName))

/-- The arguments of a search: one to three, by position. -/
def searchArguments (a : Args) (label owner : String) : Run (Value × Option Value × Option Value) := do
  a.noNames (owner ++ "." ++ label)
  match a.pos with
  | [] => Run.typeError (label ++ "() takes at least 1 argument (0 given)")
  | [x] => return (x, none, none)
  | [x, y] => return (x, some y, none)
  | [x, y, z] => return (x, some y, some z)
  | xs => Run.typeError (label ++ "() takes at most 3 arguments (" ++ toString xs.length ++ " given)")

def cutOut {α : Type} (s : List α) (w : Nat × Nat) : List α := (s.drop w.1).take (w.2 - w.1)

/-- The first or last occurrence of a part between two bounds. -/
def search (s pat : List Char) (w : Option (Nat × Nat)) (last : Bool) : Option Nat :=
  match w with
  | none => none
  | some w =>
    let part := cutOut s w
    (if last then findLast pat part else findFrom pat 0 part).map (· + w.1)

/-! ## Tables of characters -/

private def charKey (c : Char) : Key := [.whole c.toNat]

/-- Replaces characters as a table says: by a number, by a text, or by nothing. -/
private def translate (m : Machine) (s : List Char) (table : Value) : Run (List Char) := do
  let parts ← s.mapM fun c => do
    match ← Run.outcome (getItem m table (.int c.toNat)) with
    | .ok .null => return []
    | .ok v =>
      match v.text?, v.int? with
      | some t, _ => return t.toList
      | none, some n =>
        if 0 ≤ n && n < 0x110000 then return [Char.ofNat n.toNat]
        else Run.valueError "character mapping must be in range(0x110000)"
      | none, none => Run.typeError "character mapping must return integer, None or str"
    | .error e =>
      if ← Value.isSubclass (← Run.errorClass e) (.cls "LookupError") then return [c]
      else Run.raiseObject e
  return parts.flatten

/-- Makes a table from a dictionary, or from two or three texts. -/
def makeTable (a : Args) : Run Value := do
  let args ← a.between "maketrans" 1 3 "str."
  let put (d : Dict) (c : Char) (v : Value) : Dict := d.put (charKey c) (.int c.toNat) v
  match args with
  | [some x, none, none] =>
    match ← x.dict? with
    | none => Run.typeError "if you give only one argument to maketrans it must be a dict"
    | some (_, _, d) =>
      let t ← d.pairs.foldlM (fun (t : Dict) (k, v) => do
        match k.text?, k.int? with
        | some s, _ =>
          match s.toList with
          | [c] => return put t c v
          | _ => Run.valueError "string keys in translate table must be of length 1"
        | none, some n => return t.put [.whole n] (.int n) v
        | none, none => Run.typeError "keys in translate table must be strings or integers") Dict.empty
      Run.dict t
  | some x :: some y :: z =>
    let x ← match x.text? with
      | some s => pure s.toList
      | none => Run.typeError "first maketrans argument must be a string if there is a second argument"
    let y ← numbered "maketrans" 2 y
    if x.length ≠ y.length then
      Run.valueError "the first two maketrans arguments must have equal length"
    let t := (x.zip y).foldl (fun t (c, d) => put t c (.int d.toNat)) Dict.empty
    let gone ← match z with
      | [some z] => numbered "maketrans" 3 z
      | _ => pure []
    Run.dict (gone.foldl (fun t c => put t c .null) t)
  | _ => return .null

/-! ## Bytes -/

/-- A name of a codec or of a way to treat faults. -/
private def nameArgument (label word : String) (v : Option Value) (default : String) : Run String := do
  match v with
  | none => return default
  | some v =>
    match v.text? with
    | some s => return s
    | none =>
      Run.typeError (label ++ "() argument '" ++ word ++ "' must be str, not " ++ (← v.kindName))

private def faultHandling (name : String) : Run OnFault :=
  match OnFault.ofName? name with
  | some h => return h
  | none => Run.raise "LookupError" ("unknown error handler name '" ++ name ++ "'")

private def codecNamed (name : String) : Run Codec :=
  match Codec.ofName? name with
  | some k => return k
  | none => Run.raise "LookupError" ("unknown encoding: " ++ name)

/-- A text in bytes. -/
def encode (s : String) (codec errors : Option Value) (label : String := "encode") : Run Value := do
  let k ← codecNamed (← nameArgument label "encoding" codec "utf-8")
  let name ← nameArgument label "errors" errors "strict"
  let h := (OnFault.ofName? name).getD .strict
  match k.encode h s with
  | .ok b => return .bytes b
  | .error f =>
    let _ ← faultHandling name
    Run.raiseWith "UnicodeEncodeError" [.str k.label, .str s, .int f.start, .int f.stop, .str f.reason]

/-- Bytes as a text. -/
def decode (b : List UInt8) (codec errors : Option Value) (label : String := "decode") : Run Value := do
  let k ← codecNamed (← nameArgument label "encoding" codec "utf-8")
  let name ← nameArgument label "errors" errors "strict"
  let h := (OnFault.ofName? name).getD .strict
  match k.decode h b with
  | .ok s => return .str (String.ofList s)
  | .error f =>
    let _ ← faultHandling name
    Run.raiseWith "UnicodeDecodeError" [.str k.label, .bytes b, .int f.start, .int f.stop, .str f.reason]

/-! ## The methods -/

/-- The texts of a source, joined. -/
private def join (m : Machine) (markup : Bool) (s : String) (v : Value) : Run String := do
  if !(← v.isSource) then Run.typeError "can only join an iterable"
  let vs ← m.collect v
  if markup then return joinWith s (← vs.mapM escapedText)
  else
    let parts ← vs.zipIdx.mapM fun (v, i) => do
      match (← v.payload).text? with
      | some t => return t
      | none => Run.typeError ("sequence item " ++ toString i ++ ": expected str instance, " ++
          (← v.kindName) ++ " found")
    return joinWith s parts

private def isSmall (s : List Char) : Bool := s.all fun c => c.toNat < 128

/-- The question that a method asks about the characters of a text. -/
private def question? (name : String) : Option (List Char → Bool) :=
  let some' (p : Char → Bool) (s : List Char) : Bool := !s.isEmpty && s.all p
  match name with
  | "isalnum" => some (some' fun c => isLetter c || isNumeral c)
  | "isalpha" => some (some' isLetter)
  | "isascii" => some isSmall
  | "isdecimal" => some (some' isDecimal)
  | "isdigit" => some (some' isDigitLike)
  | "isidentifier" => some isName
  | "islower" => some allLower
  | "isnumeric" => some (some' isNumeral)
  | "isprintable" => some fun s => s.all isPrintable
  | "isspace" => some (some' isBlank)
  | "istitle" => some isTitleShaped
  | "isupper" => some allUpper
  | _ => none

/-- The change of case that a method makes. -/
private def caseChange? (name : String) : Option (List Char → List Char) :=
  match name with
  | "capitalize" => some capitalizeChars
  | "casefold" => some foldChars
  | "lower" => some lowerChars
  | "swapcase" => some swapCaseChars
  | "title" => some titleChars
  | "upper" => some upperChars
  | _ => none

/-- Takes tags and comments out of an escaped text, and draws runs of blanks together. -/
def withoutTags (s : List Char) : List Char :=
  let rec cut (opening closing : String) : Nat → List Char → List Char
    | 0, s => s
    | fuel + 1, s =>
      match cutFirst opening.toList s with
      | none => s
      | some (before, rest) =>
        match cutFirst closing.toList rest with
        | none => s
        | some (_, after) => cut opening closing fuel (before ++ after)
  let s := cut "<!--" "-->" (s.length + 1) s
  let s := cut "<" ">" (s.length + 1) s
  (joinWith " " ((splitBlank none s).map String.ofList)).toList

/-- The characters that the common references stand for. -/
def referenceNamed (name : List Char) : Option (List Char) :=
  match name with
  | '#' :: 'x' :: ds | '#' :: 'X' :: ds => (Number.digitsIn? 16 ds).map fun ds => [Char.ofNat (Number.valueOfDigits 16 ds)]
  | '#' :: ds => (Number.digitsIn? 10 ds).map fun ds => [Char.ofNat (Number.valueOfDigits 10 ds)]
  | _ =>
    match String.ofList name with
    | "amp" => some ['&']
    | "lt" => some ['<']
    | "gt" => some ['>']
    | "quot" => some ['"']
    | "apos" => some ['\'']
    | "nbsp" => some ['\u00a0']
    | "copy" => some ['©']
    | "reg" => some ['®']
    | "raquo" => some ['»']
    | "laquo" => some ['«']
    | "middot" => some ['·']
    | "eacute" => some ['é']
    | "euro" => some ['€']
    | "hellip" => some ['…']
    | "mdash" => some ['—']
    | "ndash" => some ['–']
    | "times" => some ['×']
    | _ => none

/-- Replaces references by the characters that they stand for. -/
def withoutReferences : List Char → List Char
  | [] => []
  | '&' :: rest =>
    let name := rest.takeWhile fun c => c.isAlphanum || c == '#'
    match rest.drop name.length, referenceNamed name with
    | ';' :: _, some cs => cs ++ withoutReferences (rest.drop (name.length + 1))
    | _, _ => '&' :: withoutReferences rest
  | c :: rest => c :: withoutReferences rest
termination_by s => s.length

/-- Calls a method of a text. -/
def call (m : Machine) (markup : Bool) (text name : String) (a : Args) : Run Value := do
  let s := text.toList
  let wrap (cs : List Char) : Value :=
    if markup then .markup (String.ofList cs) else .str (String.ofList cs)
  let many (parts : List (List Char)) : Run Value := Run.list (parts.map wrap)
  let triple (x y z : List Char) : Run Value := Run.tuple [wrap x, wrap y, wrap z]
  let label := "str." ++ name
  -- what is put into an escaped text is escaped first
  let put (cs : List Char) (v : Value) : List Char :=
    match v with
    | .markup _ => cs
    | _ => if markup then escapeChars cs else cs
  match question? name, caseChange? name with
  | some q, _ => do a.none label; return .bool (q s)
  | none, some f => do a.none label; return wrap (f s)
  | none, none =>
  match name with
  | "strip" | "lstrip" | "rstrip" =>
    let args ← a.between name 0 1 "str."
    let drop ← match args.headD none with
      | none | some .null => pure isBlank
      | some v =>
        match (← v.payload).text? with
        | some t => do let cs := t.toList; pure (cs.contains ·)
        | none => Run.typeError (name ++ " arg must be None or str")
    return wrap (match name with
      | "strip" => trim drop s
      | "lstrip" => trimLeft drop s
      | _ => trimRight drop s)
  | "center" | "ljust" | "rjust" =>
    let args ← a.between name 1 2 "str."
    let width ← (args.headD none).getD .null |>.size
    let fill ← fillArgument (args.getD 1 none)
    let w := width.toNat
    return wrap (match name with
      | "center" => centre w fill s
      | "ljust" => padRight w fill s
      | _ => padLeft w fill s)
  | "zfill" => return wrap (zeroFill (← (← a.one label).size).toNat s)
  | "find" | "rfind" | "index" | "rindex" =>
    let (x, lo, hi) ← searchArguments a name "str"
    let pat ← textArgument x
    match search s pat (← window s.length lo hi) (name == "rfind" || name == "rindex") with
    | some i => return .int i
    | none =>
      if name == "find" || name == "rfind" then return .int (-1)
      else Run.valueError "substring not found"
  | "count" =>
    let (x, lo, hi) ← searchArguments a name "str"
    let pat ← textArgument x
    match ← window s.length lo hi with
    | none => return .int 0
    | some w => return .int (countOf pat (cutOut s w))
  | "startswith" | "endswith" =>
    let (x, lo, hi) ← searchArguments a name "str"
    let w ← window s.length lo hi
    let fits (pat : String) : Bool :=
      match w with
      | none => false
      | some w =>
        let part := cutOut s w
        if name == "startswith" then startsWith pat.toList part else endsWith pat.toList part
    return .bool (← affixTest name "str" Value.text? fits x)
  | "replace" =>
    let args ← a.between name 2 3 "str."
    let old ← numbered name 1 ((args.headD none).getD .null)
    let new := (args.getD 1 none).getD .null
    let cs ← numbered name 2 new
    return wrap (replace old (put cs new) (← timesArgument (args.getD 2 none)) s)
  | "split" | "rsplit" =>
    let args ← a.bound name ["sep", "maxsplit"]
    let max ← timesArgument (args.getD 1 none)
    match (args.headD none).getD .null with
    | .null => many (if name == "split" then splitBlank max s else splitBlankLast max s)
    | v =>
      match (← v.payload).text? with
      | none => mustBe "str or None" v
      | some "" => Run.valueError "empty separator"
      | some sep => many (if name == "split" then splitOn sep.toList max s else splitOnLast sep.toList max s)
  | "splitlines" =>
    let args ← a.bound name ["keepends"]
    let keep ← ((args.headD none).getD (.bool false)).truthy
    many (splitLines keep s)
  | "partition" | "rpartition" =>
    let v ← a.one label
    let sep ← textArgument v
    if sep.isEmpty then Run.valueError "empty separator"
    match if name == "partition" then cutFirst sep s else cutLast sep s with
    | some (x, y) => triple x sep y
    | none => if name == "partition" then triple s [] [] else triple [] [] s
  | "join" => return wrap (← join m markup text (← a.one label)).toList
  | "removeprefix" =>
    let v ← a.one label
    match (← v.payload).text? with
    | some p => return wrap ((afterStart? p.toList s).getD s)
    | none => Run.typeError ("removeprefix() argument must be str, not " ++ (← v.kindName))
  | "removesuffix" =>
    let v ← a.one label
    match (← v.payload).text? with
    | some p =>
      return wrap (if !p.isEmpty && endsWith p.toList s then s.take (s.length - p.length) else s)
    | none => Run.typeError ("removesuffix() argument must be str, not " ++ (← v.kindName))
  | "expandtabs" =>
    let args ← a.bound name ["tabsize"]
    let size ← ((args.headD none).getD (.int 8)).size
    return wrap (expandTabs size.toNat s)
  | "encode" =>
    let args ← a.bound name ["encoding", "errors"]
    encode text (args.headD none) (args.getD 1 none)
  | "translate" => return wrap (← translate m s (← a.one label))
  | "maketrans" => makeTable a
  | "escape" =>
    match ← a.one "escape" with
    | .markup t => return .markup t
    | v => return .markup (← escapedText v)
  | "striptags" => do
    a.none "Markup.striptags"
    return .str (String.ofList (withoutReferences (withoutTags s)))
  | "unescape" => do
    a.none "Markup.unescape"
    return .str (String.ofList (withoutReferences s))
  | _ => Run.attributeError ("'str' object has no attribute '" ++ name ++ "'")

end Stepwise.Texts
