import Stepwise.Script.Literal
import Stepwise.Text.Case
import Stepwise.Text.Quoted
/-!
# Templates as tokens

A template is text with tags in it. Text is cut at the tags, which say what becomes of the blanks
around them; what stands inside a tag is cut into words. Comments leave nothing behind, and
what stands between `raw` and `endraw` is text whatever it looks like.
-/

namespace Stepwise.Template

/-- How a text fails to be a template: it is misspelt, or it says something that cannot be meant. -/
inductive Fault where
  | malformed
  | meaningless
  deriving DecidableEq, Inhabited

inductive Token where
  | data (s : String)
  | printStart
  | printEnd
  | tagStart
  | tagEnd
  | name (s : String)
  | str (s : String)
  | int (n : Int)
  | float (x : Float)
  | op (s : String)
  | done
  deriving Inhabited

/-- A token with the line it begins on. -/
structure Lexeme where
  token : Token
  line : Nat
  deriving Inhabited

namespace Scan

/-- What is left to be cut, and where it begins. -/
structure Rest where
  chars : List Char
  line : Nat := 1
  /-- The last cut was behind the end of a line. -/
  fresh : Bool := true

def lineEnds (s : List Char) : Nat := s.countP (· == '\n')

/-- Takes the first `n` characters. -/
def Rest.skip (r : Rest) (n : Nat) : Rest :=
  let taken := r.chars.take n
  { chars := r.chars.drop n, line := r.line + lineEnds taken
    fresh := taken.getLast? == some '\n' }

def blanksAt (s : List Char) : Nat := (s.takeWhile Text.isBlank).length

/-! ## Ends of tags -/

/-- The length of the end of a tag with all that it swallows: a minus in front takes the blanks behind,
a plus takes nothing, and otherwise the end of a line goes with the tag. -/
def tagEnd? (close : Char) (s : List Char) : Option Nat :=
  match s with
  | '-' :: c :: '\x7d' :: r => if c == close then some (3 + blanksAt r) else none
  | '+' :: c :: '\x7d' :: _ => if c == close then some 3 else none
  | c :: '\x7d' :: r =>
    if c == close then
      match r with
      | '\n' :: _ => some 3
      | _ => some 2
    else none
  | _ => none

/-- The length of the end of a printed expression. -/
def printEnd? (s : List Char) : Option Nat :=
  match s with
  | '-' :: '\x7d' :: '\x7d' :: r => some (3 + blanksAt r)
  | '\x7d' :: '\x7d' :: _ => some 2
  | _ => none

/-! ## Words inside tags -/

def longSigns : List String := ["//", "**", "==", "!=", ">=", "<="]
def shortSigns : List Char := "+-/*%~[]()\x7b\x7d><=.:|,;".toList

def sign? (s : List Char) : Option String :=
  match s with
  | a :: b :: _ =>
    let two := String.ofList [a, b]
    if longSigns.contains two then some two
    else if shortSigns.contains a then some (String.singleton a) else none
  | [a] => if shortSigns.contains a then some (String.singleton a) else none
  | [] => none

/-- Digits, with single underscores between them; the length that they take. -/
def digitRun (isDigit : Char → Bool) (s : List Char) : Nat :=
  match s with
  | c :: r => if isDigit c then 1 + more r else 0
  | [] => 0
where
  more : List Char → Nat
    | '_' :: c :: r => if isDigit c then 2 + more r else 0
    | c :: r => if isDigit c then 1 + more r else 0
    | [] => 0

/-- The length of an exponent with its digits. -/
private def exponent (s : List Char) : Nat :=
  match s with
  | c :: r =>
    if c == 'e' || c == 'E' then
      let signed := match r with
        | '+' :: _ | '-' :: _ => 1
        | _ => 0
      let n := digitRun Text.isDecimal (r.drop signed)
      if n = 0 then 0 else 1 + signed + n
    else 0
  | [] => 0

/-- The length of a number with a fraction or an exponent. -/
def floatLength? (s : List Char) : Option Nat :=
  let whole := digitRun Text.isDecimal s
  if whole = 0 then none
  else
    let rest := s.drop whole
    let fraction := match rest with
      | '.' :: r =>
        let n := digitRun Text.isDecimal r
        if n = 0 then 0 else n + 1
      | _ => 0
    let power := exponent (rest.drop fraction)
    if fraction + power = 0 then none else some (whole + fraction + power)

private def based (base : Nat) (isDigit : Char → Bool) (s : List Char) : Option (Nat × Nat × Nat) :=
  let r := match s with
    | '_' :: r => r
    | r => r
  let n := digitRun isDigit r
  if n = 0 then none else some (base, 2 + (s.length - r.length), n)

/-- The base of a whole number, the length of what stands in front of its digits, and their length. -/
def intShape? (s : List Char) : Option (Nat × Nat × Nat) :=
  let inBase := match s with
    | '0' :: c :: r =>
      match c.toLower with
      | 'b' => based 2 (fun d => d == '0' || d == '1') r
      | 'o' => based 8 (fun d => '0' ≤ d && d ≤ '7') r
      | 'x' => based 16 (fun d => Text.isDecimal d || ('a' ≤ d.toLower && d.toLower ≤ 'f')) r
      | _ => none
    | _ => none
  inBase.orElse fun _ =>
    match s with
    | '0' :: _ => some (10, 0, digitRun (· == '0') s)
    | c :: _ => if '1' ≤ c && c ≤ '9' then some (10, 0, digitRun Text.isDecimal s) else none
    | [] => none

def number? (afterPoint : Bool) (s : List Char) : Option (Token × Nat) :=
  let plain (n : Nat) : List Char := (s.take n).filter (· ≠ '_')
  match if afterPoint then none else floatLength? s with
  | some n => some (.float ((Number.readFloat? (plain n)).getD 0.0), n)
  | none =>
    (intShape? s).map fun (base, lead, n) =>
      let ds := ((s.drop lead).take n).filter (· ≠ '_')
      (.int (Number.valueOfDigits base ((Number.digitsIn? base ds).getD [])), lead + n)

/-- The length of a text in quotes, which may hold the quote behind a backslash. -/
def quotedLength? (quote : Char) : Nat → List Char → Option Nat
  | n, '\\' :: _ :: r => quotedLength? quote (n + 2) r
  | n, c :: r => if c == quote then some (n + 1) else quotedLength? quote (n + 1) r
  | _, [] => none

def textToken (s : List Char) : Except Fault Token :=
  match Script.Written.unescape false (Text.escapeNonAscii s) with
  | some cs => .ok (.str (String.ofList cs))
  | none => .error .malformed

/-- The next word inside a tag and its length. -/
def word (afterPoint : Bool) (s : List Char) : Except Fault (Token × Nat) :=
  match number? afterPoint s with
  | some t => .ok t
  | none =>
    let w := s.takeWhile Text.isWordChar
    if !w.isEmpty then
      if Text.isName w then .ok (.name (String.ofList w), w.length) else .error .malformed
    else match s with
      | c :: r =>
        if c == '\'' || c == '"' then
          match quotedLength? c 1 r with
          | some n => do
            let t ← textToken (r.take (n - 2))
            return (t, n)
          | none => .error .malformed
        else match sign? s with
          | some op => .ok (.op op, op.length)
          | none => .error .malformed
      | [] => .error .malformed

/-- The brackets that are open behind a word; one that does not fit is a fault. -/
def balance (stack : List String) (t : Token) : Except Fault (List String) :=
  match t with
  | .op "(" => .ok (")" :: stack)
  | .op "[" => .ok ("]" :: stack)
  | .op "\x7b" => .ok ("\x7d" :: stack)
  | .op s =>
    if s == ")" || s == "]" || s == "\x7d" then
      match stack with
      | top :: r => if top == s then .ok r else .error .malformed
      | [] => .error .malformed
    else .ok stack
  | _ => .ok stack

/-- The words up to the end of a tag. Where brackets are open, no tag ends. -/
def inside (ends : List Char → Option Nat) (closing : Token) :
    Nat → Bool → List String → Rest → Array Lexeme → Except Fault (Rest × Array Lexeme)
  | 0, _, _, _, _ => .error .malformed
  | fuel + 1, afterPoint, stack, r, out =>
    if r.chars.isEmpty then .ok (r, out)
    else match if stack.isEmpty then ends r.chars else none with
      | some n => .ok (r.skip n, out.push ⟨closing, r.line⟩)
      | none =>
        let b := blanksAt r.chars
        if b > 0 then inside ends closing fuel false stack (r.skip b) out
        else do
          let (t, n) ← word afterPoint r.chars
          let stack ← balance stack t
          let point := match t with
            | .op "." => true
            | _ => false
          inside ends closing fuel point stack (r.skip n) (out.push ⟨t, r.line⟩)

/-! ## Text between tags -/

inductive Opening where
  | print | tag | comment
  deriving DecidableEq

def opening? : List Char → Option Opening
  | '\x7b' :: '\x7b' :: _ => some .print
  | '\x7b' :: '%' :: _ => some .tag
  | '\x7b' :: '#' :: _ => some .comment
  | _ => none

/-- The text in front of the first tag, and the tag. -/
def textBefore : List Char → List Char → List Char × Option Opening
  | acc, [] => (acc.reverse, none)
  | acc, c :: r =>
    match opening? (c :: r) with
    | some o => (acc.reverse, some o)
    | none => textBefore (c :: acc) r

/-- What a tag leaves of the text in front of it. A minus takes all blanks; without a sign, tags and
comments take the blanks that stand on their line alone. -/
def keptText (text : List Char) (sign : Option Char) (isPrint fresh : Bool) : List Char :=
  if sign == some '-' then Text.trimRight Text.isBlank text
  else if sign == some '+' || isPrint then text
  else
    let onLine := text.reverse.takeWhile (· ≠ '\n')
    let startsLine := onLine.length < text.length || fresh
    if startsLine && onLine.all Text.isBlank then text.take (text.length - onLine.length) else text

def signAt : List Char → Option Char
  | '-' :: _ => some '-'
  | '+' :: _ => some '+'
  | _ => none

/-- The length of `word` between blanks, if it stands there. -/
private def spaced? (word : String) (s : List Char) : Option Nat :=
  let b := blanksAt s
  (Text.afterStart? word.toList (s.drop b)).map fun r => b + word.length + blanksAt r

/-- The length of the rest of a tag that begins raw text. -/
private def rawStart? (s : List Char) : Option Nat := do
  let n ← spaced? "raw" s
  match s.drop n with
  | '-' :: '%' :: '\x7d' :: r => some (n + 3 + blanksAt r)
  | '%' :: '\x7d' :: _ => some (n + 2)
  | _ => none

/-- The length of a tag that ends raw text, with its sign. -/
private def rawEnd? (s : List Char) : Option (Nat × Option Char) := do
  let r ← Text.afterStart? ['\x7b', '%'] s
  let sign := signAt r
  let lead := if sign.isSome then 1 else 0
  let n ← spaced? "endraw" (r.drop lead)
  let k ← tagEnd? '%' (r.drop (lead + n))
  some (2 + lead + n + k, sign)

/-- The text of raw text, and the length and the sign of the tag behind it. -/
private def rawText? : List Char → List Char → Option (List Char × Nat × Option Char)
  | _, [] => none
  | acc, c :: r =>
    match rawEnd? (c :: r) with
    | some (n, sign) => some (acc.reverse, n, sign)
    | none => rawText? (c :: acc) r

/-- The length of a comment up to and with its end. -/
private def commentLength? : Nat → List Char → Option Nat
  | _, [] => none
  | n, c :: r =>
    match tagEnd? '#' (c :: r) with
    | some k => some (n + k)
    | none => commentLength? (n + 1) r

def pushText (out : Array Lexeme) (text : List Char) (line : Nat) : Array Lexeme :=
  if text.isEmpty then out else out.push ⟨.data (String.ofList text), line⟩

def whole : Nat → Rest → Array Lexeme → Except Fault (Array Lexeme)
  | 0, _, _ => .error .malformed
  | fuel + 1, r, out =>
    let (text, found) := textBefore [] r.chars
    match found with
    | none => .ok (pushText out text r.line)
    | some o =>
      let behind := r.chars.drop (text.length + 2)
      let sign := signAt behind
      let lead := if sign.isSome then 1 else 0
      let out := pushText out (keptText text sign (o == .print) r.fresh) r.line
      let inner := r.skip (text.length + 2 + lead)
      match o with
      | .comment =>
        match commentLength? 0 inner.chars with
        | some n => whole fuel (inner.skip n) out
        | none => .error .malformed
      | .print => do
        let line := (r.skip text.length).line
        let (rest, out) ← inside printEnd? .printEnd (inner.chars.length + 1) false [] inner (out.push ⟨.printStart, line⟩)
        whole fuel rest out
      | .tag =>
        match rawStart? inner.chars with
        | some n =>
          let rest := r.skip (text.length + 2 + lead + n)
          match rawText? [] rest.chars with
          | some (raw, k, sign) =>
            whole fuel (rest.skip (raw.length + k)) (pushText out (keptText raw sign false rest.fresh) rest.line)
          | none => .error .malformed
        | none => do
          let line := (r.skip text.length).line
          let (rest, out) ← inside (tagEnd? '%') .tagEnd (inner.chars.length + 1) false [] inner (out.push ⟨.tagStart, line⟩)
          whole fuel rest out

/-- Line ends of any kind become newlines. -/
def unifyLines : List Char → List Char
  | '\r' :: '\n' :: r => '\n' :: unifyLines r
  | '\r' :: r => '\n' :: unifyLines r
  | c :: r => c :: unifyLines r
  | [] => []

/-- A line end behind the last line belongs to no template. -/
def withoutLastLineEnd (s : List Char) : List Char :=
  if s.getLast? == some '\n' then s.dropLast else s

end Scan

/-- The tokens of a template. -/
def tokens (source : String) : Except Fault (List Lexeme) := do
  let s := Scan.withoutLastLineEnd (Scan.unifyLines source.toList)
  return (← Scan.whole (s.length + 1) ⟨s, 1, true⟩ #[]).toList

end Stepwise.Template
