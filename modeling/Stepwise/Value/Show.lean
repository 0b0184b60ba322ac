import Stepwise.Value.Kind
import Stepwise.Value.SetOrder
import Stepwise.Number.Show
import Stepwise.Text.Quoted
/-!
# Values as text

Two texts belong to a value: the displayed one, which shows strings in quotes, and the plain one,
which is a string itself. A container is displayed through its members; a container met inside
itself is displayed as dots.
-/

namespace Stepwise

/-- Whole numbers beyond this many digits are not written out. -/
def maxDigits : Nat := 4300

/-- The decimal text of a whole number. -/
def showInt (n : Int) : Run String :=
  -- a number of fewer than 4300 * log2 10 binary digits cannot have too many decimal ones
  if n.natAbs.log2 < 14280 then return toString n
  else
    let t := toString n.natAbs
    if t.length > maxDigits then
      Run.valueError ("Exceeds the limit (" ++ toString maxDigits ++
        " digits) for integer string conversion; use sys.set_int_max_str_digits() to increase the limit")
    else return toString n

/-- The full name of a class as it is displayed. -/
def Value.classPath (c : Value) : Run String := do
  match c with
  | .cls n => return n
  | .ref a =>
    match ← Run.load a with
    | .cls info => return info.module ++ "." ++ info.id
    | _ => return "object"
  | _ => return "object"

/-- What messages about missing names call an object. -/
def Value.describe (v : Value) : Run String := do
  match v with
  | .null => return "None"
  | .ellipsis => return "Ellipsis"
  | _ =>
    match ← Value.classOf v with
    | .cls n => return n ++ " object"
    | c => return (← c.classPath) ++ " object"

/-- A part of a complex number: whole numbers without the point. -/
private def showPart (x : Float) : String :=
  let t := Number.showFloat x
  if t.endsWith ".0" then (t.dropEnd 2).toString else t

/-- The text of a complex number. -/
def showComplex (re im : Float) : String :=
  let sign := if Number.isNegative im then "" else if im.isNaN then "+" else "+"
  if re == 0.0 && !Number.isNegative re then showPart im ++ "j"
  else "(" ++ showPart re ++ sign ++ showPart im ++ "j)"

def recursionMessage : String := "maximum recursion depth exceeded while getting the repr of an object"

def comma (parts : List String) : String := Text.joinWith ", " parts

/-- The names of the flags of a pattern. -/
def flagNames (flags : Nat) : List String :=
  (if flags / 2 % 2 = 1 then ["re.IGNORECASE"] else []) ++
  (if flags / 8 % 2 = 1 then ["re.MULTILINE"] else []) ++
  (if flags / 16 % 2 = 1 then ["re.DOTALL"] else []) ++
  (if flags / 64 % 2 = 1 then ["re.VERBOSE"] else []) ++
  (if flags / 256 % 2 = 1 then ["re.ASCII"] else [])

/-- The displayed text of a value. `inside` holds the containers that are being displayed. -/
def Value.displayAt : Nat → List Addr → Value → Run String
  | 0, _, _ => Run.raise "RecursionError" recursionMessage
  | fuel + 1, inside, v => do
    let sub (inside : List Addr) (x : Value) : Run String := Value.displayAt fuel inside x
    match v with
    | .null => return "None"
    | .bool b => return if b then "True" else "False"
    | .int n => showInt n
    | .float x => return Number.showFloat x
    | .str s => return Text.quoted s
    | .markup s => return "Markup(" ++ Text.quoted s ++ ")"
    | .bytes b => return Text.quotedBytes b
    | .ellipsis => return "Ellipsis"
    | .notImplemented => return "NotImplemented"
    | .cls n => return "<class '" ++ n ++ "'>"
    | .fn n =>
      match (Text.afterStart? "method ".toList n.toList).map String.ofList with
      | some path =>
        return "<method '" ++ Classes.shortName path ++ "' of '" ++ (Classes.moduleOf? path).getD "" ++ "' objects>"
      | none => return "<built-in function " ++ Classes.shortName n ++ ">"
    | .host n => return "<function " ++ n ++ ">"
    | .ref a =>
      let o ← Run.load a
      let again := inside.contains a
      let inside := a :: inside
      let all (xs : List Value) : Run String := do return comma (← xs.mapM (sub inside))
      let pairs (d : Dict) : Run String := do
        let ps ← d.pairs.mapM fun (k, x) => do return (← sub inside k) ++ ": " ++ (← sub inside x)
        return "\x7b" ++ comma ps ++ "\x7d"
      match o with
      | .list xs => if again then return "[...]" else return "[" ++ (← all xs.toList) ++ "]"
      | .tuple none xs =>
        if again then return "(...)"
        else match xs with
          | [x] => return "(" ++ (← sub inside x) ++ ",)"
          | _ => return "(" ++ (← all xs) ++ ")"
      | .tuple (some c) xs =>
        if again then return "(...)"
        else match ← Run.load c with
          | .cls info =>
            if info.bare then return "(" ++ (← all xs) ++ ")"
            let names := info.fields.getD []
            let ps ← (names.zip xs).mapM fun (n, x) => do return n ++ "=" ++ (← sub inside x)
            return info.id ++ "(" ++ comma ps ++ ")"
          | _ => return "(" ++ (← all xs) ++ ")"
      | .dict flavour d =>
        match flavour with
        | .plain | .derived _ => if again then return "\x7b...\x7d" else pairs d
        | .context _ =>
          if again then return "ExecutionContext(\x7b...\x7d)" else return "ExecutionContext(" ++ (← pairs d) ++ ")"
        | .ordered =>
          if again then return "..."
          else if d.isEmpty then return "OrderedDict()"
          else
            let ps ← d.pairs.mapM fun (k, x) => do
              return "(" ++ (← sub inside k) ++ ", " ++ (← sub inside x) ++ ")"
            return "OrderedDict([" ++ comma ps ++ "])"
        | .defaulting f =>
          let body ← if again then pure "\x7b...\x7d" else pairs d
          return "defaultdict(" ++ (← sub inside f) ++ ", " ++ body ++ ")"
        | .counter =>
          if again then return "..."
          else if d.isEmpty then return "Counter()"
          else
            -- most common first, when the counts can be ordered
            let count (p : Value × Value) : Option Int := p.2.int?
            let ps := d.pairs
            let sorted := if ps.all (fun p => (count p).isSome) then
                ps.mergeSort (fun p q => (count p).getD 0 ≥ (count q).getD 0)
              else ps
            let ts ← sorted.mapM fun (k, x) => do return (← sub inside k) ++ ": " ++ (← sub inside x)
            return "Counter(\x7b" ++ comma ts ++ "\x7d)"
      | .set frozen d =>
        let name := if frozen then "frozenset" else "set"
        if again then return name ++ "(...)"
        else if d.isEmpty then return name ++ "()"
        else
          let body := "\x7b" ++ (← all d.members) ++ "\x7d"
          return if frozen then "frozenset(" ++ body ++ ")" else body
      | .deque xs limit =>
        if again then return "[...]"
        else return "deque([" ++ (← all xs) ++ "]" ++
          (match limit with | some n => ", maxlen=" ++ toString n | none => "") ++ ")"
      | .range a b s =>
        return "range(" ++ toString a ++ ", " ++ toString b ++
          (if s = 1 then "" else ", " ++ toString s) ++ ")"
      | .slice a b c => return "slice(" ++ (← all [a, b, c]) ++ ")"
      | .complex re im => return showComplex re im
      | .date d => return "datetime.date(" ++ comma (([d.year, d.month, d.day]).map toString) ++ ")"
      | .datetime t =>
        let base := [t.date.year, t.date.month, t.date.day, t.time.hour, t.time.minute]
        let rest := if t.time.micro ≠ 0 then [t.time.second, t.time.micro]
          else if t.time.second ≠ 0 then [t.time.second] else []
        return "datetime.datetime(" ++ comma ((base ++ rest).map toString) ++
          (match t.offset with
            | none => ""
            | some o => ", tzinfo=" ++ showZone o) ++ ")"
      | .time t offset =>
        let rest := if t.micro ≠ 0 then [t.second, t.micro]
          else if t.second ≠ 0 then [t.second] else []
        return "datetime.time(" ++ comma (([t.hour, t.minute] ++ rest).map toString) ++
          (match offset with
            | none => ""
            | some o => ", tzinfo=" ++ showZone o) ++ ")"
      | .span s => return showSpan s
      | .zone o none => return showZone o
      | .zone o (some n) =>
        return "datetime.timezone(" ++ showSpan ⟨o * 1000000⟩ ++ ", " ++ Text.quoted n ++ ")"
      | .cls info =>
        return "<class '" ++ info.module ++ "." ++ info.path ++ "'>"
      | .error c args _ =>
        let name ← Value.classLabel c
        match args with
        | [x] => return name ++ "(" ++ (← sub inside x) ++ ")"
        | _ => return name ++ "(" ++ (← all args) ++ ")"
      | .instance c payload =>
        match payload with
        | .null => return "<" ++ (← Value.classPath (.ref c)) ++ " object>"
        | p => sub inside p
      | .view kind d =>
        let name := match kind with
          | .keys => "dict_keys" | .values => "dict_values" | .items => "dict_items"
        if again then return "..."
        else match ← Run.load d with
          | .dict _ dd =>
            let ts ← dd.pairs.mapM fun (k, x) => do
              match kind with
              | .keys => sub inside k
              | .values => sub inside x
              | .items => return "(" ++ (← sub inside k) ++ ", " ++ (← sub inside x) ++ ")"
            return name ++ "([" ++ comma ts ++ "])"
          | _ => return name ++ "([])"
      | .module id => return "<module '" ++ id ++ "'>"
      | .cursor "itertools.count" (.count n step) =>
        match step with
        | .int 1 => return "count(" ++ (← sub inside n) ++ ")"
        | _ => return "count(" ++ (← sub inside n) ++ ", " ++ (← sub inside step) ++ ")"
      | .cursor "itertools.repeat" (.repeat x left) =>
        return "repeat(" ++ (← sub inside x) ++
          (match left with | some k => ", " ++ toString k | none => "") ++ ")"
      | .pattern text flags =>
        let shown := Text.quoted text
        let names := flagNames flags
        return "re.compile(" ++ shown ++
          (if names.isEmpty then "" else ", " ++ Text.joinWith "|" names) ++ ")"
      | .match_ _ subject groups _ _ _ _ =>
        let (i, j) := ((groups.head?.getD none)).getD (0, 0)
        let part := String.ofList ((subject.toList.drop i).take (j - i))
        return "<re.Match object; span=(" ++ toString i ++ ", " ++ toString j ++ "), match=" ++
          Text.quoted part ++ ">"
      | .undefined _ => return "Undefined"
      | .macro' m =>
        return "<Macro " ++ (match m.id with | some n => Text.quoted n | none => "anonymous") ++ ">"
      | .component .. => return "TemplateComponent(name=None)"
      | .loop l =>
        return "<LoopContext " ++ toString (l.index + 1) ++ "/" ++
          (match l.length with | some n => toString n | none => "?") ++ ">"
      | .namespaceObj ms =>
        let ts ← ms.mapM fun (k, x) => do return Text.quoted k ++ ": " ++ (← sub inside x)
        return "<Namespace \x7b" ++ comma ts ++ "\x7d>"
      | .selfRef _ => return "<TemplateReference None>"
      | _ => return "<" ++ (← Value.classPath (← Value.classOf v)) ++ " object>"
where
  /-- A span with its parts named. -/
  showSpan (s : Calendar.Span) : String :=
    let parts := (if s.days ≠ 0 then ["days=" ++ toString s.days] else []) ++
      (if s.seconds ≠ 0 then ["seconds=" ++ toString s.seconds] else []) ++
      (if s.micro ≠ 0 then ["microseconds=" ++ toString s.micro] else [])
    "datetime.timedelta(" ++ (if parts.isEmpty then "0" else comma parts) ++ ")"
  showZone (o : Calendar.Offset) : String :=
    if o = 0 then "datetime.timezone.utc" else "datetime.timezone(" ++ showSpan ⟨o * 1000000⟩ ++ ")"

/-- The depth to which containers are displayed. -/
def displayDepth : Nat := 900

/-- The displayed text of a value. -/
def Value.display (v : Value) : Run String := Value.displayAt displayDepth [] v

/-- The message about a name that is not defined. -/
def undefinedMessage (u : Undefined) : Run String := do
  match u.hint with
  | some h => return h
  | none =>
    match u.owner with
    | none => return (← u.name.display) ++ " is undefined"
    | some o =>
      match u.name with
      | .str s | .markup s => return Text.quoted (← o.describe) ++ " has no attribute " ++ Text.quoted s
      | n => return (← o.describe) ++ " has no element " ++ (← n.display)

/-- Raises the error that using an undefined value in earnest means, or using one that is hidden. -/
def failUndefined {α : Type} (u : Undefined) : Run α := do
  Run.raise (if u.hidden then Classes.securityError else Classes.undefinedError) (← undefinedMessage u)

/-- The plain text of an error. -/
def errorText (cls : Value) (args : List Value) (fields : List (String × Value))
    (plain : Value → Run String) : Run String := do
  let shown : Run String := do
    match args with
    | [] => return ""
    | [x] => plain x
    | _ => return "(" ++ comma (← args.mapM Value.display) ++ ")"
  if ← Value.isSubclass cls (.cls "KeyError") then
    match args with
    | [x] => x.display
    | _ => shown
  else if ← Value.isSubclass cls (.cls "OSError") then
    match fields.lookup "errno", fields.lookup "strerror" with
    | some n, some m =>
      let told := "[Errno " ++ (← plain n) ++ "] " ++ (← plain m)
      match fields.lookup "filename", fields.lookup "filename2" with
      | none, _ => return told
      | some f, none => return told ++ ": " ++ (← f.display)
      | some f, some g => return told ++ ": " ++ (← f.display) ++ " -> " ++ (← g.display)
    | _, _ => shown
  else if ← Value.isSubclass cls (.cls "UnicodeDecodeError") then
    match args with
    | [.str codec, .bytes b, .int i, .int j, .str reason] =>
      if j = i + 1 then
        let byte := (b.getD i.toNat 0).toNat
        return "'" ++ codec ++ "' codec can't decode byte 0x" ++ String.ofList (Text.hexPadded 2 byte) ++
          " in position " ++ toString i ++ ": " ++ reason
      else return "'" ++ codec ++ "' codec can't decode bytes in position " ++ toString i ++ "-" ++
        toString (j - 1) ++ ": " ++ reason
    | _ => shown
  else if ← Value.isSubclass cls (.cls "UnicodeEncodeError") then
    match args with
    | [.str codec, .str s, .int i, .int j, .str reason] =>
      if j = i + 1 then
        let c := (s.toList.getD i.toNat '?').toNat
        let code := if c < 256 then "\\x" ++ String.ofList (Text.hexPadded 2 c)
          else if c < 65536 then "\\u" ++ String.ofList (Text.hexPadded 4 c)
          else "\\U" ++ String.ofList (Text.hexPadded 8 c)
        return "'" ++ codec ++ "' codec can't encode character '" ++ code ++ "' in position " ++
          toString i ++ ": " ++ reason
      else return "'" ++ codec ++ "' codec can't encode characters in position " ++ toString i ++ "-" ++
        toString (j - 1) ++ ": " ++ reason
    | _ => shown
  else if ← Value.isSubclass cls (.cls "SyntaxError") then
    match fields.lookup "where" with
    | some (.str place) => return (← shown) ++ place
    | _ => shown
  else shown

/-- The plain text of a value. Strings are themselves; an undefined value is empty, or fails if
it is strict. -/
def Value.plainAt : Nat → Value → Run String
  | 0, _ => Run.raise "RecursionError" recursionMessage
  | fuel + 1, v =>
    match v with
    | .str s | .markup s => return s
    | .ref a => do
      match ← Run.load a with
      | .error c args fields => errorText c args fields (Value.plainAt fuel)
      | .date d => return d.show
      | .datetime t => return t.show " "
      | .time t o => return t.show ++ (o.map Calendar.showOffset).getD ""
      | .span s => return s.show
      | .zone o n =>
        return n.getD (if o = 0 then "UTC" else "UTC" ++ Calendar.showOffset o)
      | .undefined u => if u.strict then failUndefined u else return ""
      | .templateModule _ pieces =>
        return String.join (← pieces.mapM (Value.plainAt fuel))
      | .instance _ p =>
        match p with
        | .null => v.display
        | p => Value.plainAt fuel p
      | .printer ts => return Text.joinWith "" ts
      | _ => v.display
    | _ => v.display

def Value.plain (v : Value) : Run String := Value.plainAt displayDepth v

/-- The plain text of an error in the store. -/
def errorMessage (e : Addr) : Run String := Value.plain (.ref e)

end Stepwise
