import Stepwise.Text.Utf8
/-!
# Tokens of documents

The text of a document is cut into tokens. Indentation opens and closes blocks, and a text that
may turn out to be a key is remembered until a colon proves it to be one: the opening of its
mapping is then put in front of it. Cutting fails on every text that is not a document, and the
reason does not matter, with one exception: an escape that names no character is a fault of its
own.
-/

namespace Stepwise.Document

/-- Why a text is not a document. -/
inductive Fault where
  | malformed
  /-- An escape stands for a number beyond the last character. -/
  | noSuchChar (code : Nat)
  deriving DecidableEq, Inhabited

/-- How a scalar is written. -/
inductive Style where
  | plain | single | double | literal | folded
  deriving DecidableEq, Inhabited

inductive Token where
  | streamEnd
  | version (major : Nat)
  | tagHandle (handle start : String)
  | otherDirective
  | documentStart
  | documentEnd
  | blockSequenceStart
  | blockMappingStart
  | blockEnd
  | flowSequenceStart
  | flowSequenceEnd
  | flowMappingStart
  | flowMappingEnd
  | blockEntry
  | flowEntry
  | key
  | value
  | reference (name : String)
  | anchor (name : String)
  | tag (handle : Option String) (suffix : String)
  | scalar (text : String) (style : Style)
  deriving DecidableEq, Inhabited

abbrev Scan := Except Fault

/-! ## Characters -/

/-- Characters that may stand in a document. -/
def isAllowed (c : Char) : Bool :=
  let n := c.toNat
  n = 9 || n = 10 || n = 13 || (32 ≤ n && n ≤ 126) || n = 0x85 || (0xa0 ≤ n && n ≤ 0xd7ff) ||
  (0xe000 ≤ n && n ≤ 0xfffd) || 0x10000 ≤ n

/-- Characters that end a line of a document. -/
def isBreak (c : Char) : Bool :=
  c = '\n' || c = '\r' || c.toNat = 0x85 || c.toNat = 0x2028 || c.toNat = 0x2029

/-- The end of the text is read as the character NUL. -/
def isEnd (c : Char) : Bool := c.toNat = 0

def isBreakOrEnd (c : Char) : Bool := isEnd c || isBreak c

/-- Blanks, line ends and the end of the text. -/
def isGap (c : Char) : Bool := c = ' ' || c = '\t' || isBreakOrEnd c

/-- Like `isGap`, but tabs do not count. -/
def isSpaceGap (c : Char) : Bool := c = ' ' || isBreakOrEnd c

def isNameChar (c : Char) : Bool := c.isAlphanum || c = '-' || c = '_'

/-! ## The place in the text -/

/-- The rest of the text, and how many characters, lines and columns lie before it. -/
structure Place where
  rest : List Char
  index : Nat
  line : Nat
  column : Nat
  deriving Inhabited

namespace Place

def peek (p : Place) : Char := p.rest.headD '\x00'
def peekAt (p : Place) (k : Nat) : Char := (p.rest.drop k).headD '\x00'

/-- Goes past one character. -/
def step (p : Place) : Place :=
  match p.rest with
  | [] => p
  | c :: r =>
    if (isBreak c && c ≠ '\r') || (c = '\r' && r.headD '\x00' ≠ '\n') then
      ⟨r, p.index + 1, p.line + 1, 0⟩
    else ⟨r, p.index + 1, p.line, if c.toNat = 0xfeff then p.column else p.column + 1⟩

def skip (p : Place) : Nat → Place
  | 0 => p
  | n + 1 => p.step.skip n

/-- The longest run of characters with a property, and the place behind it. -/
def span (p : Place) (f : Char → Bool) : List Char × Place :=
  let run := p.rest.takeWhile f
  (run, p.skip run.length)

def skipWhile (p : Place) (f : Char → Bool) : Place := (p.span f).2

/-- Reads a line end: the characters it stands for. -/
def lineBreak (p : Place) : List Char × Place :=
  match p.rest with
  | '\r' :: '\n' :: _ => (['\n'], p.skip 2)
  | c :: _ =>
    if c = '\n' || c = '\r' || c.toNat = 0x85 then (['\n'], p.step)
    else if isBreak c then ([c], p.step)
    else ([], p)
  | [] => ([], p)

/-- Does a line that only separates documents start here? -/
def atMarker (p : Place) : Bool :=
  match p.rest with
  | '-' :: '-' :: '-' :: r | '.' :: '.' :: '.' :: r => isGap (r.headD '\x00')
  | _ => false

end Place

/-! ## Escapes and scalars between quotes -/

/-- The character that a one-letter escape stands for. -/
def escapeOf? : Char → Option Char
  | '0' => some '\x00' | 'a' => some '\x07' | 'b' => some '\x08' | 't' => some '\t'
  | '\t' => some '\t' | 'n' => some '\n' | 'v' => some '\x0b' | 'f' => some '\x0c'
  | 'r' => some '\r' | 'e' => some '\x1b' | ' ' => some ' ' | '"' => some '"'
  | '\\' => some '\\' | '/' => some '/' | 'N' => some '\u0085' | '_' => some '\u00a0'
  | 'L' => some '\u2028' | 'P' => some '\u2029'
  | _ => none

/-- How many digits follow an escape by number. -/
def escapeWidth? : Char → Option Nat
  | 'x' => some 2 | 'u' => some 4 | 'U' => some 8 | _ => none

def hexDigit? (c : Char) : Option Nat :=
  if c.isDigit then some (c.toNat - 48)
  else if 'a' ≤ c && c ≤ 'f' then some (c.toNat - 87)
  else if 'A' ≤ c && c ≤ 'F' then some (c.toNat - 55)
  else none

/-- Puts a digit behind a number. -/
def addHexDigit (n : Option Nat) (c : Char) : Option Nat :=
  match n, hexDigit? c with
  | some n, some d => some (n * 16 + d)
  | _, _ => none

def hexNumber? (cs : List Char) : Option Nat := cs.foldl addHexDigit (some 0)

/-- The line ends after a line within quotes, and the indentation of the next line. -/
def quotedBreaks : Nat → Place → List Char → Scan (List Char × Place)
  | 0, _, _ => .error .malformed
  | fuel + 1, p, acc =>
    if p.atMarker then .error .malformed
    else
      let p := p.skipWhile (fun c => c = ' ' || c = '\t')
      if isBreak p.peek then
        let (b, p) := p.lineBreak
        quotedBreaks fuel p (acc ++ b)
      else .ok (acc, p)

/-- Blanks and line ends within quotes: a single line end is a blank. -/
def quotedSpaces (p : Place) : Scan (List Char × Place) :=
  let (blanks, p) := p.span (fun c => c = ' ' || c = '\t')
  if p.rest.isEmpty then .error .malformed
  else if isBreak p.peek then do
    let (b, p) := p.lineBreak
    let (more, p) ← quotedBreaks (p.rest.length + 1) p []
    if b ≠ ['\n'] then .ok (b ++ more, p)
    else if more.isEmpty then .ok ([' '], p)
    else .ok (more, p)
  else .ok (blanks, p)

/-- Text within quotes up to a blank, a line end or the closing quote. -/
def quotedText (double : Bool) : Nat → Place → List Char → Scan (List Char × Place)
  | 0, _, _ => .error .malformed
  | fuel + 1, p, acc =>
    let (run, p) := p.span fun c => !(c = '\'' || c = '"' || c = '\\' || isGap c)
    let acc := acc ++ run
    let c := p.peek
    if p.rest.isEmpty then .ok (acc, p)
    else if !double && c = '\'' && p.peekAt 1 = '\'' then
      quotedText double fuel (p.skip 2) (acc ++ ['\''])
    else if (double && c = '\'') || (!double && (c = '"' || c = '\\')) then
      quotedText double fuel p.step (acc ++ [c])
    else if double && c = '\\' then
      let p := p.step
      let c := p.peek
      if p.rest.isEmpty then .error .malformed
      else match escapeOf? c with
        | some e => quotedText double fuel p.step (acc ++ [e])
        | none =>
          match escapeWidth? c with
          | some w =>
            let p := p.step
            let digits := p.rest.take w
            if digits.length < w then .error .malformed
            else match hexNumber? digits with
              | none => .error .malformed
              | some n =>
                if n ≥ 0x110000 then .error (.noSuchChar n)
                else
                  let ch := if 0xd800 ≤ n && n < 0xe000 then '\ufffd' else Char.ofNat n
                  quotedText double fuel (p.skip w) (acc ++ [ch])
          | none =>
            if isBreak c then do
              let (_, p) := p.lineBreak
              let (more, p) ← quotedBreaks (p.rest.length + 1) p []
              quotedText double fuel p (acc ++ more)
            else .error .malformed
    else .ok (acc, p)

def quotedRest (double : Bool) : Nat → Place → List Char → Scan (List Char × Place)
  | 0, _, _ => .error .malformed
  | fuel + 1, p, acc => do
    let quote := if double then '"' else '\''
    if p.peek = quote then .ok (acc, p.step)
    else
      let (s, p) ← quotedSpaces p
      let (t, p) ← quotedText double (p.rest.length + 2) p []
      quotedRest double fuel p (acc ++ s ++ t)

/-- A scalar between quotes. -/
def quotedScalar (double : Bool) (p : Place) : Scan (Token × Place) := do
  let p := p.step
  let turns := p.rest.length + 2
  let (t, p) ← quotedText double turns p []
  let (t, p) ← quotedRest double turns p t
  return (.scalar (String.ofList t) (if double then .double else .single), p)

/-! ## Block scalars -/

/-- What becomes of the line ends at the end of a block scalar. -/
inductive Chomping where
  | clip | strip | keep
  deriving DecidableEq

def chompingOf? : Char → Option Chomping
  | '+' => some .keep
  | '-' => some .strip
  | _ => none

/-- The indicators after `|` or `>`. -/
def blockHeader (p : Place) : Scan (Chomping × Option Nat × Place) := do
  let (chomp, width, p) ←
    match chompingOf? p.peek with
    | some ch =>
      let p := p.step
      if p.peek.isDigit then
        if p.peek = '0' then .error .malformed
        else .ok (ch, some (p.peek.toNat - 48), p.step)
      else .ok (ch, none, p)
    | none =>
      if p.peek.isDigit then
        if p.peek = '0' then .error .malformed
        else
          let w := p.peek.toNat - 48
          let p := p.step
          match chompingOf? p.peek with
          | some ch => .ok (ch, some w, p.step)
          | none => .ok (Chomping.clip, some w, p)
      else .ok (Chomping.clip, none, p)
  if isSpaceGap p.peek then .ok (chomp, width, p) else .error .malformed

/-- The rest of a line that may hold a comment and nothing else. -/
def ignoredLine (p : Place) : Scan Place :=
  let p := p.skipWhile (· = ' ')
  let p := if p.peek = '#' then p.skipWhile (fun c => !isBreak c) else p
  if isBreakOrEnd p.peek then .ok p.lineBreak.2 else .error .malformed

/-- Blank lines before the first line, and the deepest column reached in them. -/
def blockIndentation : Nat → Place → List Char → Nat → List Char × Nat × Place
  | 0, p, acc, deepest => (acc, deepest, p)
  | fuel + 1, p, acc, deepest =>
    if p.peek = ' ' then
      let p := p.step
      blockIndentation fuel p acc (max deepest p.column)
    else if isBreak p.peek then
      let (b, p) := p.lineBreak
      blockIndentation fuel p (acc ++ b) deepest
    else (acc, deepest, p)

def skipIndent (indent : Nat) : Nat → Place → Place
  | 0, p => p
  | fuel + 1, p => if p.column < indent && p.peek = ' ' then skipIndent indent fuel p.step else p

/-- Blank lines within a block scalar, and the indentation of the next line. -/
def blockBreaks (indent : Nat) : Nat → Place → List Char → List Char × Place
  | 0, p, acc => (acc, p)
  | fuel + 1, p, acc =>
    let p := skipIndent indent (indent + 1) p
    if isBreak p.peek then
      let (b, p) := p.lineBreak
      blockBreaks indent fuel p (acc ++ b)
    else (acc, p)

/-- The lines of a block scalar: the text so far, the last line end, the blank lines behind. -/
def blockLines (folded : Bool) (indent : Nat) :
    Nat → Place → List Char → List Char → List Char → List Char × List Char × List Char × Place
  | 0, p, acc, last, breaks => (acc, last, breaks, p)
  | fuel + 1, p, acc, last, breaks =>
    if p.column = indent && !p.rest.isEmpty then
      let acc := acc ++ breaks
      let flush := !(p.peek = ' ' || p.peek = '\t')
      let (line, p) := p.span (fun c => !isBreak c)
      let acc := acc ++ line
      let (b, p) := p.lineBreak
      let (more, p) := blockBreaks indent (p.rest.length + 1) p []
      if p.column = indent && !p.rest.isEmpty then
        let joins := folded && b = ['\n'] && flush && !(p.peek = ' ' || p.peek = '\t')
        let acc := if joins then (if more.isEmpty then acc ++ [' '] else acc) else acc ++ b
        blockLines folded indent fuel p acc b more
      else (acc, b, more, p)
    else (acc, last, breaks, p)

/-- A scalar introduced by `|` or `>`; `outer` is the indentation of the block around it. -/
def blockScalar (folded : Bool) (outer : Int) (p : Place) : Scan (Token × Place) := do
  let (chomp, width, p) ← blockHeader p.step
  let p ← ignoredLine p
  let least := (max (outer + 1) 1).toNat
  let (indent, breaks, p) :=
    match width with
    | none =>
      let (b, deepest, p) := blockIndentation (p.rest.length + 1) p [] 0
      (max least deepest, b, p)
    | some w =>
      let indent := least + w - 1
      let (b, p) := blockBreaks indent (p.rest.length + 1) p []
      (indent, b, p)
  let (text, last, more, p) := blockLines folded indent (p.rest.length + 1) p [] [] breaks
  let text := if chomp = .strip then text else text ++ last
  let text := if chomp = .keep then text ++ more else text
  return (.scalar (String.ofList text) (if folded then .folded else .literal), p)

/-! ## Plain scalars -/

/-- How many characters of a plain scalar stand here without a blank. -/
def plainRun (flow : Bool) : List Char → Nat
  | [] => 0
  | c :: r =>
    let next := r.headD '\x00'
    if isGap c ||
        (c = ':' && (isGap next || (flow && ",[]\x7b\x7d".toList.contains next))) ||
        (flow && ",?[]\x7b\x7d".toList.contains c) then 0
    else plainRun flow r + 1

def plainBreaks : Nat → Place → List Char → Option (List Char) × Place
  | 0, p, acc => (some acc, p)
  | fuel + 1, p, acc =>
    if p.peek = ' ' then plainBreaks fuel p.step acc
    else if isBreak p.peek then
      let (b, p) := p.lineBreak
      if p.atMarker then (none, p) else plainBreaks fuel p (acc ++ b)
    else (some acc, p)

/-- Blanks and line ends within a plain scalar: what they stand for if it goes on, and whether
a line has ended. -/
def plainSpaces (p : Place) : List Char × Bool × Place :=
  let (blanks, p) := p.span (· = ' ')
  if isBreak p.peek then
    let (b, p) := p.lineBreak
    if p.atMarker then ([], true, p)
    else
      match plainBreaks (p.rest.length + 1) p [] with
      | (none, p) => ([], true, p)
      | (some more, p) =>
        (if b ≠ ['\n'] then b ++ more else if more.isEmpty then [' '] else more, true, p)
  else (blanks, false, p)

/-- The text of a plain scalar, and whether it ended with a line. -/
def plainText (flow : Bool) (indent : Int) :
    Nat → Place → List Char → List Char → Bool → List Char × Bool × Place
  | 0, p, acc, _, ended => (acc, ended, p)
  | fuel + 1, p, acc, blanks, ended =>
    if p.peek = '#' then (acc, ended, p)
    else
      let n := plainRun flow p.rest
      if n = 0 then (acc, ended, p)
      else
        let acc := acc ++ blanks ++ p.rest.take n
        let p := p.skip n
        let (blanks, ended, p) := plainSpaces p
        if blanks.isEmpty || p.peek = '#' || (!flow && Int.ofNat p.column < indent) then
          (acc, ended, p)
        else plainText flow indent fuel p acc blanks ended

/-! ## Tags, anchors and directives -/

def uriChars : List Char := "-;/?:@&=+$,_.!~*'()[]%".toList

def uriText : Nat → Place → List UInt8 → Scan (List UInt8 × Place)
  | 0, p, acc => .ok (acc, p)
  | fuel + 1, p, acc =>
    let c := p.peek
    if p.rest.isEmpty then .ok (acc, p)
    else if c = '%' then
      match hexNumber? (p.rest.drop 1 |>.take 2) with
      | some n =>
        if (p.rest.drop 1 |>.take 2).length < 2 then .error .malformed
        else uriText fuel (p.skip 3) (acc ++ [n.toUInt8])
      | none => .error .malformed
    else if c.isAlphanum || uriChars.contains c then
      uriText fuel p.step (acc ++ [c.toNat.toUInt8])
    else .ok (acc, p)

def uri (p : Place) : Scan (String × Place) := do
  let (bytes, p) ← uriText (p.rest.length + 1) p []
  if bytes.isEmpty then .error .malformed
  else match Text.decodeUtf8 bytes with
    | .ok t => .ok (String.ofList t, p)
    | .error _ => .error .malformed

/-- `!`, `!!` or `!name!`. -/
def tagHandle (p : Place) : Scan (String × Place) :=
  if p.peek ≠ '!' then .error .malformed
  else if p.peekAt 1 = ' ' then .ok ("!", p.step)
  else
    let name := (p.rest.drop 1).takeWhile isNameChar
    if p.peekAt (name.length + 1) = '!' then
      .ok (String.ofList (p.rest.take (name.length + 2)), p.skip (name.length + 2))
    else if name.isEmpty then .ok ("!", p.step)
    else .error .malformed

/-- A tag of a node. -/
def nodeTag (p : Place) : Scan (Token × Place) := do
  let next := p.peekAt 1
  let (token, p) ←
    if next = '<' then do
      let (t, p) ← uri (p.skip 2)
      if p.peek = '>' then Except.ok (Token.tag none t, p.step) else .error .malformed
    else if isGap next then Except.ok (Token.tag none "!", p.step)
    else do
      let ahead := (p.rest.drop 1).takeWhile (fun c => !isSpaceGap c)
      if ahead.contains '!' then
        let (h, p) ← tagHandle p
        let (t, p) ← uri p
        Except.ok (Token.tag (some h) t, p)
      else
        let (t, p) ← uri p.step
        Except.ok (Token.tag (some "!") t, p)
  if isSpaceGap p.peek then .ok (token, p) else .error .malformed

/-- The name of an anchor or an alias. -/
def anchorName (p : Place) : Scan (String × Place) :=
  let (name, p) := p.step.span isNameChar
  if name.isEmpty then .error .malformed
  else if isGap p.peek || "?:,]\x7d%@`".toList.contains p.peek then .ok (String.ofList name, p)
  else .error .malformed

def digits (p : Place) : Scan (Nat × Place) :=
  let (ds, p) := p.span Char.isDigit
  if ds.isEmpty then .error .malformed
  else .ok (ds.foldl (fun n c => n * 10 + (c.toNat - 48)) 0, p)

/-- A line that starts with `%`. -/
def directive (p : Place) : Scan (Token × Place) := do
  let (name, p) := p.step.span isNameChar
  if name.isEmpty || !isSpaceGap p.peek then .error .malformed
  else
    let (token, p) ←
      if name = "YAML".toList then do
        let (major, p) ← digits (p.skipWhile (· = ' '))
        if p.peek ≠ '.' then .error .malformed
        else
          let (_, p) ← digits p.step
          if isSpaceGap p.peek then Except.ok (Token.version major, p) else .error .malformed
      else if name = "TAG".toList then do
        let (h, p) ← tagHandle (p.skipWhile (· = ' '))
        if p.peek ≠ ' ' then .error .malformed
        else
          let (t, p) ← uri (p.skipWhile (· = ' '))
          if isSpaceGap p.peek then Except.ok (Token.tagHandle h t, p) else .error .malformed
      else Except.ok (Token.otherDirective, p.skipWhile (fun c => !isBreak c))
    let p ← ignoredLine p
    return (token, p)

/-! ## The whole text -/

/-- A text that may turn out to be a key: before which token it stands, whether it must be one,
and where it starts. -/
structure Candidate where
  token : Nat
  required : Bool
  index : Nat
  line : Nat
  column : Nat
  deriving Inhabited

structure Cutter where
  place : Place
  tokens : Array Token
  /-- Indentations of the open blocks, innermost first; `-1` stands below them all. -/
  indents : List Int
  flowDepth : Nat
  keyAllowed : Bool
  /-- Candidates by depth of flow. -/
  candidates : List (Nat × Candidate)
  deriving Inhabited

namespace Cutter

def indent (s : Cutter) : Int := s.indents.headD (-1)

def add (s : Cutter) (t : Token) : Cutter := { s with tokens := s.tokens.push t }

def unwindLoop (column : Int) : Nat → Cutter → Cutter
  | 0, s => s
  | fuel + 1, s =>
    if s.indent > column then
      unwindLoop column fuel { s.add .blockEnd with indents := s.indents.drop 1 }
    else s

/-- Closes the blocks that are indented deeper than a column. -/
def unwind (s : Cutter) (column : Int) : Cutter :=
  if s.flowDepth > 0 then s else unwindLoop column (s.indents.length + 1) s

/-- Forgets the candidate of this depth, unless it had to be a key. -/
def dropCandidate (s : Cutter) : Scan Cutter :=
  match s.candidates.lookup s.flowDepth with
  | some k =>
    if k.required then .error .malformed
    else .ok { s with candidates := s.candidates.filter (·.1 ≠ s.flowDepth) }
  | none => .ok s

/-- Remembers that a key may start here. -/
def saveCandidate (s : Cutter) : Scan Cutter := do
  let required := s.flowDepth = 0 && s.indent = Int.ofNat s.place.column
  if s.keyAllowed then
    let s ← s.dropCandidate
    let k : Candidate :=
      ⟨s.tokens.size, required, s.place.index, s.place.line, s.place.column⟩
    return { s with candidates := (s.flowDepth, k) :: s.candidates }
  else return s

/-- Forgets candidates that are too far behind: a key stands on one line of limited length. -/
def dropStale (s : Cutter) : Scan Cutter :=
  let stale (k : Candidate) : Bool := k.line ≠ s.place.line || s.place.index - k.index > 1024
  if s.candidates.any (fun (_, k) => stale k && k.required) then .error .malformed
  else .ok { s with candidates := s.candidates.filter fun (_, k) => !stale k }

/-- Opens a block at a column, if it is deeper than the current one. -/
def openBlock (s : Cutter) (column : Int) : Cutter × Bool :=
  if s.indent < column then ({ s with indents := column :: s.indents }, true) else (s, false)

def skipBlankLoop : Nat → Cutter → Cutter
  | 0, s => s
  | fuel + 1, s =>
    let p := s.place.skipWhile (· = ' ')
    let p := if p.peek = '#' then p.skipWhile (fun c => !isBreak c) else p
    let (b, q) := p.lineBreak
    if b.isEmpty then { s with place := p }
    else skipBlankLoop fuel
      { s with place := q, keyAllowed := if s.flowDepth = 0 then true else s.keyAllowed }

/-- Goes to the next token, past blanks and comments. -/
def skipBlank (s : Cutter) : Cutter :=
  let p := s.place
  let p := if p.index = 0 && p.peek.toNat = 0xfeff then p.step else p
  skipBlankLoop (p.rest.length + 1) { s with place := p }

/-- Adds a token and goes past `n` characters. -/
def take (s : Cutter) (n : Nat) (t : Token) : Cutter :=
  { s.add t with place := s.place.skip n }

/-- A token that is read by a function of the place. -/
def read (s : Cutter) (f : Place → Scan (Token × Place)) : Scan Cutter := do
  let (t, p) ← f s.place
  return { s.add t with place := p }

/-- `-` before an entry of a block sequence. -/
def entry (s : Cutter) : Scan Cutter := do
  let s ←
    if s.flowDepth = 0 then
      if !s.keyAllowed then .error .malformed
      else
        let (s, opened) := s.openBlock s.place.column
        Except.ok (if opened then s.add .blockSequenceStart else s)
    else Except.ok s
  let s ← { s with keyAllowed := true }.dropCandidate
  return s.take 1 .blockEntry

/-- `?` before a key. -/
def explicitKey (s : Cutter) : Scan Cutter := do
  let s ←
    if s.flowDepth = 0 then
      if !s.keyAllowed then .error .malformed
      else
        let (s, opened) := s.openBlock s.place.column
        Except.ok (if opened then s.add .blockMappingStart else s)
    else Except.ok s
  let s ← { s with keyAllowed := s.flowDepth = 0 }.dropCandidate
  return s.take 1 .key

/-- `:` before a value. If a candidate stands before it, that was the key. -/
def colon (s : Cutter) : Scan Cutter := do
  match s.candidates.lookup s.flowDepth with
  | some k =>
    let s := { s with candidates := s.candidates.filter (·.1 ≠ s.flowDepth) }
    let s := { s with tokens := s.tokens.insertIdxIfInBounds k.token .key }
    let s :=
      if s.flowDepth = 0 then
        let (s, opened) := s.openBlock k.column
        if opened then { s with tokens := s.tokens.insertIdxIfInBounds k.token .blockMappingStart }
        else s
      else s
    return { s with keyAllowed := false }.take 1 .value
  | none =>
    let s ←
      if s.flowDepth = 0 then
        if !s.keyAllowed then .error .malformed
        else
          let (s, opened) := s.openBlock s.place.column
          Except.ok (if opened then s.add .blockMappingStart else s)
      else Except.ok s
    let s ← { s with keyAllowed := s.flowDepth = 0 }.dropCandidate
    return s.take 1 .value

/-- May a plain scalar start here? -/
def plainStarts (s : Cutter) : Bool :=
  let c := s.place.peek
  let next := s.place.peekAt 1
  !(isGap c || "-?:,[]\x7b\x7d#&*!|>'\"%@`".toList.contains c) ||
    (!isGap next && (c = '-' || (s.flowDepth = 0 && (c = '?' || c = ':'))))

def plain (s : Cutter) : Scan Cutter := do
  let s ← s.saveCandidate
  let (text, ended, p) :=
    plainText (s.flowDepth > 0) (s.indent + 1) (s.place.rest.length + 1) s.place [] [] false
  return { s.add (.scalar (String.ofList text) .plain) with place := p, keyAllowed := ended }

/-- Closes everything before a line that starts or ends a document. -/
def closeAll (s : Cutter) : Scan Cutter := do
  let s ← (s.unwind (-1)).dropCandidate
  return { s with keyAllowed := false }

/-- Reads the token that begins here; the flag says that it was the last. -/
def token (s : Cutter) : Scan (Cutter × Bool) := do
  let s := s.unwind s.place.column
  let p := s.place
  let c := p.peek
  let going (r : Scan Cutter) : Scan (Cutter × Bool) := do return (← r, false)
  if p.rest.isEmpty then
    let s ← s.closeAll
    return ({ s.add .streamEnd with candidates := [] }, true)
  else if c = '%' && p.column = 0 then going do (← s.closeAll).read directive
  else if c = '-' && p.column = 0 && p.atMarker then going do
    return (← s.closeAll).take 3 .documentStart
  else if c = '.' && p.column = 0 && p.atMarker then going do
    return (← s.closeAll).take 3 .documentEnd
  else if c = '[' || c = '{' then going do
    let s ← s.saveCandidate
    return { s with flowDepth := s.flowDepth + 1, keyAllowed := true }.take 1
      (if c = '[' then .flowSequenceStart else .flowMappingStart)
  else if c = ']' || c = '}' then going do
    if s.flowDepth = 0 then .error .malformed
    else
      let s ← s.dropCandidate
      return { s with flowDepth := s.flowDepth - 1, keyAllowed := false }.take 1
        (if c = ']' then .flowSequenceEnd else .flowMappingEnd)
  else if c = ',' then going do
    let s ← { s with keyAllowed := true }.dropCandidate
    return s.take 1 .flowEntry
  else if c = '-' && isGap (p.peekAt 1) then going s.entry
  else if c = '?' && (s.flowDepth > 0 || isGap (p.peekAt 1)) then going s.explicitKey
  else if c = ':' && (s.flowDepth > 0 || isGap (p.peekAt 1)) then going s.colon
  else if c = '*' then going do
    let s ← s.saveCandidate
    { s with keyAllowed := false }.read fun p => do
      let (n, p) ← anchorName p
      return (.reference n, p)
  else if c = '&' then going do
    let s ← s.saveCandidate
    { s with keyAllowed := false }.read fun p => do
      let (n, p) ← anchorName p
      return (.anchor n, p)
  else if c = '!' then going do
    let s ← s.saveCandidate
    { s with keyAllowed := false }.read nodeTag
  else if (c = '|' || c = '>') && s.flowDepth = 0 then going do
    let s ← { s with keyAllowed := true }.dropCandidate
    s.read (blockScalar (c = '>') s.indent)
  else if c = '\'' || c = '"' then going do
    let s ← s.saveCandidate
    { s with keyAllowed := false }.read (quotedScalar (c = '"'))
  else if s.plainStarts then going s.plain
  else .error .malformed

/-- Goes to the next token and reads it. -/
def next (s : Cutter) : Scan (Cutter × Bool) := do (← s.skipBlank.dropStale).token

end Cutter

def cutLoop : Nat → Cutter → Scan (Array Token)
  | 0, _ => .error .malformed
  | fuel + 1, s => do
    let (s, done) ← s.next
    if done then return s.tokens else cutLoop fuel s

/-- The tokens of a text. -/
def tokensOf (text : String) : Scan (List Token) := do
  let cs := text.toList
  if cs.all isAllowed then
    let tokens ← cutLoop (cs.length + 2) ⟨⟨cs, 0, 0, 0⟩, #[], [], 0, true, []⟩
    return tokens.toList
  else .error .malformed

end Stepwise.Document
