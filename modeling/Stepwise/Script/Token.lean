import Stepwise.Script.Tree
import Stepwise.Number.Read
/-!
# Scripts as tokens

Cuts the text of a script into words, with the lines they begin on. Indentation becomes tokens of
its own; inside brackets lines do not matter. Some faults of the text outweigh whatever a reader
of the tokens might object to, others count only if a reader gets as far as them.
-/

namespace Stepwise.Script

/-- How a text fails to be a script. -/
inductive FaultKind where
  | malformed | indentation | tabs
  deriving DecidableEq, Inhabited

structure Fault where
  kind : FaultKind
  line : Nat
  /-- The line of the token at which reading stopped. -/
  reached : Nat
  deriving Inhabited

/-- A literal of text as it is written, between its quotes. -/
structure Written where
  bytes : Bool
  raw : Bool
  formatted : Bool
  body : List Char
  deriving Inhabited

inductive Token where
  | name (s : String)
  | number (l : Literal)
  | text (t : Written)
  | op (s : String)
  | newline
  | indent
  | dedent
  | done
  /-- The text goes no further for this reason. -/
  | stuck (kind : FaultKind)
  deriving Inhabited

/-- A token with the line it begins on and the number of brackets around it. -/
structure Lexeme where
  token : Token
  line : Nat
  depth : Nat
  deriving Inhabited

structure Lexemes where
  all : List Lexeme
  /-- The line of an opening bracket that is never closed. -/
  unclosed : Option Nat
  deriving Inhabited

namespace Scan

/-- The place where scanning stands. -/
structure State where
  rest : List Char
  line : Nat
  atStart : Bool
  /-- Widths of the blocks around, innermost first: with tabs to eight columns, and to one. -/
  indents : List (Nat × Nat)
  /-- Brackets that are open, innermost first. -/
  brackets : List (Char × Nat)
  /-- What has been found, last first. -/
  found : List Lexeme

inductive Step where
  | on (s : State)
  | finished (s : State)
  /-- A fault that outweighs what a reader may find. -/
  | fault (f : Fault)

def malformed (line : Nat) : Step := .fault ⟨.malformed, line, line⟩

def State.push (s : State) (t : Token) (line : Nat) : State :=
  { s with found := ⟨t, line, s.brackets.length⟩ :: s.found }

def stop (s : State) (kind : FaultKind) (line : Nat) : Step :=
  .finished (s.push (.stuck kind) line)

/-- Measures the blanks at the start of a line; none if a line is joined to nothing there. -/
def measure : List Char → Nat → Nat → Nat × Nat × List Char
  | ' ' :: r, w, v => measure r (w + 1) (v + 1)
  | '\t' :: r, w, v => measure r ((w / 8 + 1) * 8) (v + 1)
  | '\x0c' :: r, _, _ => measure r 0 0
  | r, w, v => (w, v, r)

/-- Leaves blocks until one has the width, or a narrower one is met. -/
def leave (width : Nat) : List (Nat × Nat) → Nat × List (Nat × Nat)
  | [] => (0, [])
  | (w, v) :: r =>
    if width < w then
      let (n, l) := leave width r
      (n + 1, l)
    else (0, (w, v) :: r)

def pushAll (s : State) (t : Token) : Nat → State
  | 0 => s
  | n + 1 => pushAll (s.push t s.line) t n

/-- The start of a line outside brackets: blank lines are passed over, others open or close
blocks. -/
def startLine (s : State) : Step :=
  let (width, narrow, rest) := measure s.rest 0 0
  match rest with
  | [] =>
    let (n, _) := leave 0 s.indents
    -- the end belongs to the last line
    let s := { s with rest := [], line := s.line - 1 }
    .finished ((pushAll s .dedent n).push .done s.line)
  | '#' :: r => .on { s with rest := (r.dropWhile (· ≠ '\n')).drop 1, line := s.line + 1 }
  | '\n' :: r => .on { s with rest := r, line := s.line + 1 }
  | _ =>
    let s := { s with rest := rest, atStart := false }
    let (top, topNarrow) := s.indents.headD (0, 0)
    if width = top then
      if narrow ≠ topNarrow then stop s .tabs s.line else .on s
    else if width > top then
      if s.indents.length ≥ 99 then stop s .indentation s.line
      else if narrow ≤ topNarrow then stop s .tabs s.line
      else .on (({ s with indents := (width, narrow) :: s.indents }).push .indent s.line)
    else
      let (n, left) := leave width s.indents
      let (w, v) := left.headD (0, 0)
      if w ≠ width then stop s .indentation s.line
      else if v ≠ narrow then stop s .tabs s.line
      else .on (pushAll { s with indents := left } .dedent n)

/-! ## Numbers -/

/-- Digits with single underscores between them; none if an underscore stands wrongly. -/
private def digitRun (p : Char → Bool) (s : List Char) : Option (List Char × List Char) :=
  let run := s.takeWhile fun c => p c || c == '_'
  (Number.dropUnderscores? run).map fun ds => (ds, s.drop run.length)

/-- Words that may follow a number at once. -/
private def followers : List (List Char) :=
  ["and", "else", "for", "if", "in", "is", "not", "or"].map String.toList

/-- May a number end here? -/
private def endsWell (rest : List Char) : Bool :=
  match rest with
  | [] => true
  | c :: _ =>
    if followers.any (fun w => Text.startsWith w rest) then true
    else !(c.isAlphanum || c == '_' || c.toNat ≥ 128)

private def isDigitBelow (base : Nat) (c : Char) : Bool :=
  c.toNat < 128 && ((Number.digitValue? c).any (· < base))

private def based (base : Nat) (s : List Char) : Option (Literal × List Char) := do
  let s ← match s with
    | '_' :: r => if (r.head?.any (isDigitBelow base)) then some r else none
    | r => some r
  let (ds, rest) ← digitRun (isDigitBelow base) s
  if ds.isEmpty then none
  else if (rest.head?.any Char.isDigit) || !endsWell rest then none
  else
    let n := Number.valueOfDigits base ((Number.digitsIn? base ds).getD [])
    some (.int n, rest)

/-- The exponent of a number, if one follows. -/
private def exponent (s : List Char) : Option (Int × Bool × List Char) :=
  match s with
  | e :: r =>
    if e == 'e' || e == 'E' then
      let (neg, signed, r') := match r with
        | '-' :: r => (true, true, r)
        | '+' :: r => (false, true, r)
        | r => (false, false, r)
      if r'.head?.any Char.isDigit then do
        let (ds, rest) ← digitRun Char.isDigit r'
        let n := min (Number.valueOfDigits 10 (((Number.digitsIn? 10 ds).getD []).take 12)) 1000000000
        return (if neg then -Int.ofNat n else Int.ofNat n, true, rest)
      else if signed then none
      else some (0, false, s)
    else some (0, false, s)
  | [] => some (0, false, s)

/-- Reads a number at the start of the text; none if it is misspelt. -/
private def number (s : List Char) : Option (Literal × List Char) := do
  match s with
  | '0' :: m :: r =>
    if m == 'x' || m == 'X' then based 16 r
    else if m == 'o' || m == 'O' then based 8 r
    else if m == 'b' || m == 'B' then based 2 r
    else decimal s
  | _ => decimal s
where
  decimal (s : List Char) : Option (Literal × List Char) := do
    let (whole, rest) ← if s.head?.any Char.isDigit then digitRun Char.isDigit s else some ([], s)
    let (fraction, point, rest) ← match rest with
      | '.' :: r =>
        if r.head?.any Char.isDigit then do
          let (ds, rest) ← digitRun Char.isDigit r
          some (ds, true, rest)
        else some ([], true, r)
      | r => some ([], false, r)
    let (e, scaled, rest) ← exponent rest
    let digits (cs : List Char) : List Nat := (Number.digitsIn? 10 cs).getD []
    let x := Number.ofDecimal (digits whole ++ digits fraction) (e - Int.ofNat fraction.length)
    match rest with
    | c :: r =>
      if c == 'j' || c == 'J' then
        if endsWell r then some (.imaginary x, r) else none
      else finish whole point scaled x rest
    | [] => finish whole point scaled x rest
  finish (whole : List Char) (point scaled : Bool) (x : Float) (rest : List Char) :
      Option (Literal × List Char) :=
    if !endsWell rest then none
    else if point || scaled then some (.float x, rest)
    else if whole.head? == some '0' && whole.any (· ≠ '0') then none
    else
      some (.int (Number.valueOfDigits 10 ((Number.digitsIn? 10 whole).getD [])), rest)

/-! ## Texts -/

/-- The body of a literal up to its closing quotes, and what follows. -/
def body (quote : Char) (long : Bool) : List Char → List Char →
    Option (List Char × List Char)
  | '\\' :: c :: r, acc => body quote long r (c :: '\\' :: acc)
  | c :: r, acc =>
    if c == quote then
      if long then
        match r with
        | d :: e :: r' =>
          if d == quote && e == quote then some (acc.reverse, r') else body quote long r (c :: acc)
        | _ => none
      else some (acc.reverse, r)
    else if c == '\n' && !long then none
    else body quote long r (c :: acc)
  | [], _ => none

/-- What the letters in front of a quote ask for, if they may stand there together. -/
def marks (letters : List Char) : Option Written :=
  let low := letters.map Char.toLower
  if low == [] || low == ['u'] then some ⟨false, false, false, []⟩
  else if low == ['r'] then some ⟨false, true, false, []⟩
  else if low == ['b'] then some ⟨true, false, false, []⟩
  else if low == ['f'] then some ⟨false, false, true, []⟩
  else if low == ['b', 'r'] || low == ['r', 'b'] then some ⟨true, true, false, []⟩
  else if low == ['f', 'r'] || low == ['r', 'f'] then some ⟨false, true, true, []⟩
  else none

def text (s : State) (w : Written) (quote : Char) (r : List Char) : Step :=
  let (long, r) := match r with
    | d :: e :: r' => if d == quote && e == quote then (true, r') else (false, r)
    | _ => (false, r)
  match body quote long r [] with
  | none => malformed s.line
  | some (b, rest) =>
    .on { (s.push (.text { w with body := b }) s.line) with
      rest := rest, line := s.line + b.count '\n' }

/-! ## Everything else -/

def longSigns : List (List Char) :=
  ["**=", "//=", ">>=", "<<=", "...", "**", "//", ">>", "<<", "<=", ">=", "==", "!=", "->", "+=",
    "-=", "*=", "/=", "%=", "&=", "|=", "^=", "@=", ":=", "<>"].map String.toList

def opener (c : Char) : Char :=
  if c == ')' then '(' else if c == ']' then '[' else '\x7b'

/-- One token inside a line. -/
def word (s : State) : Step :=
  match s.rest with
  | [] => .finished (s.push .done s.line)
  | c :: r =>
    if c == ' ' || c == '\t' || c == '\x0c' then .on { s with rest := r }
    else if c == '#' then .on { s with rest := r.dropWhile (· ≠ '\n') }
    else if c == '\n' then
      if s.brackets.isEmpty then
        .on { (s.push .newline s.line) with rest := r, line := s.line + 1, atStart := true }
      else .on { s with rest := r, line := s.line + 1 }
    else if c == '\\' then
      match r with
      | '\n' :: r' =>
        if r'.isEmpty then stop s .malformed s.line
        else .on { s with rest := r', line := s.line + 1 }
      | _ => stop s .malformed s.line
    else if c == '"' || c == '\'' then text s ⟨false, false, false, []⟩ c r
    else if c.isDigit || (c == '.' && r.head?.any Char.isDigit) then
      match number s.rest with
      | some (l, rest) => .on { (s.push (.number l) s.line) with rest := rest }
      | none => malformed s.line
    else if c.isAlpha || c == '_' || c.toNat ≥ 128 then
      let w := s.rest.takeWhile fun c => c.isAlphanum || c == '_' || c.toNat ≥ 128
      let rest := s.rest.drop w.length
      match rest, marks w with
      | q :: r', some m =>
        if q == '"' || q == '\'' then text s m q r' else name s w rest
      | _, _ => name s w rest
    else if c == '(' || c == '[' || c == '\x7b' then
      if s.brackets.length ≥ 200 then malformed s.line
      else
        let s := s.push (.op (String.singleton c)) s.line
        .on { s with rest := r, brackets := (c, s.line) :: s.brackets }
    else if c == ')' || c == ']' || c == '\x7d' then
      match s.brackets with
      | (o, _) :: outer =>
        if o == opener c then
          .on ({ s with rest := r, brackets := outer }.push (.op (String.singleton c)) s.line)
        else malformed s.line
      | [] => malformed s.line
    else if c.toNat < 32 || c.toNat = 127 then malformed s.line
    else
      match longSigns.find? (fun w => Text.startsWith w s.rest) with
      | some w => .on { (s.push (.op (String.ofList w)) s.line) with rest := s.rest.drop w.length }
      | none => .on { (s.push (.op (String.singleton c)) s.line) with rest := r }
where
  name (s : State) (w rest : List Char) : Step :=
    if w.head?.any Text.isNameStart && w.all Text.isNamePart then
      .on { (s.push (.name (String.ofList w)) s.line) with rest := rest }
    else malformed s.line

def step (s : State) : Step :=
  if s.atStart && s.brackets.isEmpty then startLine s else word s

def run : Nat → State → Except Fault Lexemes
  | 0, s => .error ⟨.malformed, s.line, s.line⟩
  | fuel + 1, s =>
    match step s with
    | .on s => run fuel s
    | .fault f => .error f
    | .finished s => .ok ⟨s.found.reverse, s.brackets.head?.map (·.2)⟩

/-- Line ends of every kind become one, and a last line is ended. -/
def unifyLines : List Char → List Char
  | '\r' :: '\n' :: r => '\n' :: unifyLines r
  | '\r' :: r => '\n' :: unifyLines r
  | [c] => if c == '\n' then [c] else [c, '\n']
  | c :: r => c :: unifyLines r
  | [] => []

end Scan

/-- The tokens of a text whose first line has a number. -/
def Lexemes.ofChars (line : Nat) (s : List Char) : Except Fault Lexemes :=
  let s := Scan.unifyLines s
  Scan.run (2 * s.length + 4) ⟨s, line, true, [], [], []⟩

end Stepwise.Script
