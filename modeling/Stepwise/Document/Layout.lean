import Stepwise.Document.Node
/-!
# Documents as text

A graph of nodes is laid out in blocks, two blanks deeper for every level, with lines of about
eighty columns. A node that is met twice gets a name where it is first written and is an alias
afterwards. A scalar is written plainly where reading the plain form gives it back, else between
single quotes, else between double quotes.
-/

namespace Stepwise.Document

/-! ## What a text allows -/

/-- How a text may be written. -/
structure Analysis where
  empty : Bool
  multiline : Bool
  plain : Bool
  single : Bool
  block : Bool
  deriving DecidableEq

def isTextBreak (c : Char) : Bool :=
  c = '\n' || c.toNat = 0x85 || c.toNat = 0x2028 || c.toNat = 0x2029

def isTextGap (c : Char) : Bool := isGap c

def isSpecial (c : Char) : Bool :=
  let n := c.toNat
  !(c = '\n' || (0x20 ≤ n && n ≤ 0x7e)) &&
  !((n = 0x85 || (0xa0 ≤ n && n ≤ 0xd7ff) || (0xe000 ≤ n && n ≤ 0xfffd) ||
    (0x10000 ≤ n && n < 0x10ffff)) && n ≠ 0xfeff)

/-- What one pass over a text finds. -/
structure Findings where
  indicators : Bool := false
  breaks : Bool := false
  special : Bool := false
  leading : Bool := false
  trailingBreak : Bool := false
  trailingSpace : Bool := false
  breakSpace : Bool := false
  spaceBreak : Bool := false

/-- Does a character mean something at its place, the first or another one, between gaps or not? -/
def isIndicator (first gapBefore gapBehind : Bool) (c : Char) : Bool :=
  if first then
    "#,[]\x7b\x7d&*!|>'\"%@`".toList.contains c || ((c = '?' || c = ':' || c = '-') && gapBehind)
  else (c = ':' && gapBehind) || (c = '#' && gapBefore)

/-- Looks at one character: whether a gap stands before and behind it, whether it is first or
last, and what kind the character before it was. -/
def look (f : Findings) (first last gapBefore gapBehind prevSpace prevBreak : Bool)
    (c : Char) : Findings :=
  let f := { f with
    indicators := f.indicators || isIndicator first gapBefore gapBehind c
    breaks := f.breaks || isTextBreak c
    special := f.special || isSpecial c }
  if c = ' ' then
    { f with
      leading := f.leading || first
      trailingSpace := f.trailingSpace || last
      breakSpace := f.breakSpace || prevBreak }
  else if isTextBreak c then
    { f with
      leading := f.leading || first
      trailingBreak := f.trailingBreak || last
      spaceBreak := f.spaceBreak || prevSpace }
  else f

/-- Nothing more, or a gap. -/
def beginsGap : List Char → Bool
  | [] => true
  | c :: _ => isTextGap c

def scan (f : Findings) (first gapBefore prevSpace prevBreak : Bool) :
    List Char → Findings
  | [] => f
  | c :: r =>
    let f := look f first r.isEmpty gapBefore (beginsGap r) prevSpace prevBreak c
    scan f false (isTextGap c) (c = ' ') (isTextBreak c) r

/-- How a text may be written outside of brackets. -/
def analyse (s : List Char) : Analysis :=
  if s.isEmpty then ⟨true, false, true, true, false⟩
  else
    let marker := ['-', '-', '-'].isPrefixOf s || ['.', '.', '.'].isPrefixOf s
    let f := scan {} true true false false s
    let bad := f.spaceBreak || f.special
    { empty := false
      multiline := f.breaks
      plain := !(f.leading || f.trailingSpace || f.trailingBreak || f.breakSpace || bad ||
        f.breaks || f.indicators || marker)
      single := !(f.breakSpace || bad)
      block := !(f.trailingSpace || bad) }

/-! ## The page -/

/-- A backslash announces a blank that comes first on a line between double quotes. -/
def announce (next : Char) : List Char := if next = ' ' then ['\\'] else []

/-- What has been written, and where the next character goes. -/
structure Page where
  out : String
  column : Nat
  /-- A blank or the start of a line was written last. -/
  afterBlank : Bool
  /-- Only indentation and indicators stand on this line. -/
  atIndent : Bool
  indent : Option Nat
  deriving Inhabited

namespace Page

def blank : Page := ⟨"", 0, true, true, none⟩

def put (p : Page) (s : List Char) : Page :=
  { p with out := p.out ++ String.ofList s, column := p.column + s.length }

def indicator (p : Page) (s : String) (needBlank : Bool) (blankAfter keepsIndent : Bool) : Page :=
  let s := if p.afterBlank || !needBlank then s else " " ++ s
  { p with
    out := p.out ++ s, column := p.column + s.length
    afterBlank := blankAfter, atIndent := p.atIndent && keepsIndent }

def lineBreak (p : Page) (c : Char) : Page :=
  { p with out := p.out.push c, column := 0, afterBlank := true, atIndent := true }

/-- Goes to the indentation of the current block, on a new line if need be. -/
def toIndent (p : Page) : Page :=
  let n := p.indent.getD 0
  let p := if !p.atIndent || p.column > n || (p.column = n && !p.afterBlank) then p.lineBreak '\n'
    else p
  if p.column < n then
    { p with out := p.out ++ String.ofList (List.replicate (n - p.column) ' '), column := n,
             afterBlank := true }
  else p

/-- Goes on with a text on a new line. -/
def fold (p : Page) : Page := { p.toIndent with afterBlank := false, atIndent := false }

/-- Folds a line between double quotes. -/
def foldBefore (p : Page) (next : Char) : Page := (p.put ['\\']).fold.put (announce next)

/-- Goes one level deeper. -/
def deeper (p : Page) (flow indentless : Bool) : Page :=
  { p with indent := match p.indent with
    | none => some (if flow then 2 else 0)
    | some n => some (if indentless then n else n + 2) }

end Page

/-- The columns after which a line is folded. -/
def lineWidth : Nat := 80

/-! ## Scalars -/

inductive Stretch where
  | blanks (n : Nat)
  | breaks (cs : List Char)
  | text (cs : List Char)

/-- Puts a character in front of stretches. -/
def addChar (c : Char) (runs : List Stretch) : List Stretch :=
  if c = ' ' then
    match runs with
    | .blanks n :: r => .blanks (n + 1) :: r
    | r => .blanks 1 :: r
  else if isTextBreak c then
    match runs with
    | .breaks cs :: r => .breaks (c :: cs) :: r
    | r => .breaks [c] :: r
  else match runs with
    | .text cs :: r => .text (c :: cs) :: r
    | r => .text [c] :: r

/-- The stretches of a text: blanks, line ends and words. -/
def runsOf (s : List Char) : List Stretch := s.foldr addChar []

def putBreaks (p : Page) (cs : List Char) : Page :=
  let p := if cs.head? = some '\n' then p.lineBreak '\n' else p
  (cs.foldl Page.lineBreak p).toIndent

/-- A word with its quotes doubled. -/
def doubled (cs : List Char) : List Char := cs.flatMap fun c => if c = '\'' then ['\'', '\''] else [c]

/-- Writes one stretch of a text between single quotes, with the number of the stretch; a lone blank within
the text may become a line end. -/
def putQuoted (split : Bool) (count : Nat) (spot : Page × Nat) (r : Stretch) : Page × Nat :=
  let (p, i) := spot
  let p := match r with
    | .blanks n =>
      if n = 1 && p.column > lineWidth && split && i ≠ 0 && i + 1 ≠ count then p.toIndent
      else p.put (List.replicate n ' ')
    | .breaks cs => putBreaks p cs
    | .text cs => p.put (doubled cs)
  (p, i + 1)

/-- Text between single quotes. -/
def putSingle (p : Page) (s : List Char) (split : Bool) : Page :=
  let p := p.indicator "'" true false false
  let runs := runsOf s
  (runs.foldl (putQuoted split runs.length) (p, 0)).1.indicator "'" false false false

/-- Writes one stretch of a text without quotes; a lone blank may become a line end. -/
def putUnquoted (split : Bool) (p : Page) (r : Stretch) : Page :=
  match r with
  | .blanks n => if n = 1 && p.column > lineWidth && split then p.fold else p.put (List.replicate n ' ')
  | .breaks cs => putBreaks p cs
  | .text cs => p.put cs

/-- Text without quotes. -/
def putPlain (p : Page) (s : List Char) (split : Bool) : Page :=
  if s.isEmpty then p
  else
    let p := if p.afterBlank then p else p.put [' ']
    (runsOf s).foldl (putUnquoted split) { p with afterBlank := false, atIndent := false }

def upperHex (width n : Nat) : List Char :=
  (List.range width).reverse.map fun k =>
    let d := n / Nat.pow 16 k % 16
    if d < 10 then Char.ofNat (48 + d) else Char.ofNat (55 + d)

/-- How a character is escaped between double quotes. -/
def escapeChar (c : Char) : List Char :=
  match c with
  | '\x00' => ['\\', '0'] | '\x07' => ['\\', 'a'] | '\x08' => ['\\', 'b'] | '\t' => ['\\', 't']
  | '\n' => ['\\', 'n'] | '\x0b' => ['\\', 'v'] | '\x0c' => ['\\', 'f'] | '\r' => ['\\', 'r']
  | '\x1b' => ['\\', 'e'] | '"' => ['\\', '"'] | '\\' => ['\\', '\\'] | '\u0085' => ['\\', 'N']
  | '\u00a0' => ['\\', '_'] | '\u2028' => ['\\', 'L'] | '\u2029' => ['\\', 'P']
  | c =>
    let n := c.toNat
    if n ≤ 0xff then ['\\', 'x'] ++ upperHex 2 n
    else if n ≤ 0xffff then ['\\', 'u'] ++ upperHex 4 n
    else ['\\', 'U'] ++ upperHex 8 n

def needsEscape (c : Char) : Bool :=
  let n := c.toNat
  c = '"' || c = '\\' || n = 0x85 || n = 0x2028 || n = 0x2029 || n = 0xfeff ||
  !((0x20 ≤ n && n ≤ 0x7e) || (0xa0 ≤ n && n ≤ 0xd7ff) || (0xe000 ≤ n && n ≤ 0xfffd))

/-- `held` is the text, last character first, that has been passed and not yet written. -/
def doubleLoop (split : Bool) (p : Page) (position : Nat) (held : List Char) :
    List Char → Page
  | [] => if held.isEmpty then p else p.put held.reverse
  | c :: r =>
    let escaped := needsEscape c
    let (p, held) :=
      if escaped then
        let p := if held.isEmpty then p else p.put held.reverse
        (p.put (escapeChar c), [])
      else (p, held)
    let folds := 0 < position && !r.isEmpty && split && (c = ' ' || escaped || held.isEmpty) &&
      (if escaped then p.column > lineWidth + 1 else p.column + held.length > lineWidth)
    if folds then
      let p := (p.put held.reverse).foldBefore (if escaped then r.headD 'x' else c)
      doubleLoop split p (position + 1) (if escaped then [] else [c]) r
    else doubleLoop split p (position + 1) (if escaped then held else c :: held) r

/-- Text between double quotes, with escapes. -/
def putDouble (p : Page) (s : List Char) (split : Bool) : Page :=
  let p := p.indicator "\"" true false false
  (doubleLoop split p 0 [] s).indicator "\"" false false false

/-- Lines under a `|`. -/
def putLiteral (p : Page) (s : List Char) : Page :=
  let last := s.getLast?.getD 'x'
  let chomp := if !isTextBreak last then "-"
    else if s.length = 1 || isTextBreak (s.getD (s.length - 2) 'x') then "+" else ""
  let start := if (s.head?.map fun c => c = ' ' || isTextBreak c).getD false then "2" else ""
  let p := (p.indicator ("|" ++ start ++ chomp) true false false).lineBreak '\n'
  let runs := s.foldr (fun c acc =>
    if isTextBreak c then
      match acc with
      | .breaks cs :: r => .breaks (c :: cs) :: r
      | r => .breaks [c] :: r
    else match acc with
      | .text cs :: r => .text (c :: cs) :: r
      | r => .text [c] :: r) ([] : List Stretch)
  let p := runs.foldl (fun p r =>
    match r with
    | .breaks cs => cs.foldl Page.lineBreak p
    | .text cs =>
      let p := p.toIndent
      -- columns are not counted within a literal
      { p with out := p.out ++ String.ofList cs, atIndent := false, afterBlank := false }
    | .blanks _ => p) p
  if isTextBreak last || s.isEmpty then p else p.lineBreak '\n'

/-! ## Nodes -/

/-- The short form of a tag. -/
def shortTag (tag : String) : String :=
  if tagStart.isPrefixOf tag then "!!" ++ (tag.drop tagStart.length).toString
  else "!<" ++ tag ++ ">"

/-- Where a node is written. -/
structure Spot where
  inMapping : Bool
  isKey : Bool

structure Writing where
  page : Page
  written : List NodeId

/-- The names of the nodes that are met more than once, numbered as they are met again. -/
def anchorsOf (g : Graph) (root : NodeId) : List (NodeId × Nat) :=
  let children (n : Node) : List NodeId := match n.content with
    | .scalar .. => []
    | .sequence items => items
    | .mapping pairs => pairs.flatMap fun (k, v) => [k, v]
  let rec visit : Nat → List NodeId → List NodeId → List (NodeId × Nat) → List (NodeId × Nat)
    | 0, _, _, named => named
    | _, [], _, named => named
    | fuel + 1, id :: todo, seen, named =>
      if seen.contains id then
        visit fuel todo seen
          (if named.any (·.1 == id) then named else named ++ [(id, named.length + 1)])
      else visit fuel (children (g.getD id ⟨"", .scalar "" none⟩) ++ todo) (id :: seen) named
  let edges := g.foldl (fun n node => n + (children node).length) 0
  visit (edges + 2) [root] [] []

def anchorName' (n : Nat) : String :=
  let t := toString n
  "id" ++ String.ofList (List.replicate (3 - t.length) '0') ++ t

/-- Is the tag of a scalar what its text says anyway, written plainly or with quotes? -/
def implicitTag (tag text : String) : Bool × Bool :=
  (tag = plainTag text, tag = tagOf "str")

def chooseStyle (a : Analysis) (style : Option Style) (implicitPlain isKey : Bool) : Style :=
  if style.isNone && implicitPlain && !(isKey && (a.empty || a.multiline)) && a.plain then .plain
  else if style = some .literal && !isKey && a.block then .literal
  else if style.isNone && a.single && !(isKey && a.multiline) then .single
  else .double

/-- May the node be a key in front of a colon on the same line? -/
def isSimpleKey (g : Graph) (anchors : List (NodeId × Nat)) (written : List NodeId)
    (id : NodeId) : Bool :=
  let anchor := if anchors.any (·.1 == id) then 5 else 0
  match g[id]? with
  | none => false
  | some n =>
    if anchors.any (·.1 == id) && written.contains id then true
    else match n.content with
      | .scalar text _ =>
        let a := analyse text.toList
        anchor + (shortTag n.tag).length + text.length < 128 && !a.empty && !a.multiline
      | .sequence items => items.isEmpty
      | .mapping pairs => pairs.isEmpty

/-- Writes an entry of a sequence behind a dash; its node is written by a function. -/
def putItem (put : Spot → NodeId → Writing → Writing) (indent : Option Nat) (w : Writing) (item : NodeId) : Writing :=
  let p := { w.page with indent := indent }.toIndent.indicator "-" true false true
  put ⟨false, false⟩ item { w with page := p }

/-- Writes a pair of a mapping: the key stands before the colon on the same line if it can. -/
def putPair (g : Graph) (anchors : List (NodeId × Nat)) (put : Spot → NodeId → Writing → Writing)
    (indent : Option Nat) (w : Writing) (pair : NodeId × NodeId) : Writing :=
  let (k, v) := pair
  let p := { w.page with indent := indent }.toIndent
  if isSimpleKey g anchors w.written k then
    let w := put ⟨true, true⟩ k { w with page := p }
    let p := { w.page with indent := indent }.indicator ":" false false false
    put ⟨true, false⟩ v { w with page := p }
  else
    let w := put ⟨true, false⟩ k { w with page := p.indicator "?" true false true }
    let p := { w.page with indent := indent }.toIndent.indicator ":" true false true
    put ⟨true, false⟩ v { w with page := p }

/-- Writes what a node holds; its members are written by a function. -/
def putContent (g : Graph) (anchors : List (NodeId × Nat)) (put : Spot → NodeId → Writing → Writing)
    (spot : Spot) (n : Node) (w : Writing) : Writing :=
  let tagged (kind : String) (p : Page) : Page :=
    if n.tag = tagOf kind then p else p.indicator (shortTag n.tag) true false false
  match n.content with
  | .scalar text style =>
    let s := text.toList
    let a := analyse s
    let (byForm, byQuotes) := implicitTag n.tag text
    let chosen := chooseStyle a style byForm spot.isKey
    let implicit := if chosen = .plain then byForm else byQuotes
    let p := if implicit then w.page else w.page.indicator (shortTag n.tag) true false false
    let outer := p.indent
    let p := p.deeper true false
    let split := !spot.isKey
    let p := match chosen with
      | .plain => putPlain p s split
      | .single => putSingle p s split
      | .literal => putLiteral p s
      | _ => putDouble p s split
    { w with page := { p with indent := outer } }
  | .sequence [] =>
    let p := tagged "seq" w.page
    { w with page := (p.indicator "[" true true false).indicator "]" false false false }
  | .mapping [] =>
    let p := tagged "map" w.page
    { w with page := (p.indicator "\x7b" true true false).indicator "\x7d" false false false }
  | .sequence items =>
    let p := tagged "seq" w.page
    let outer := p.indent
    let p := p.deeper false (spot.inMapping && !p.atIndent)
    let inner := p.indent
    let w := items.foldl (putItem put inner) { w with page := p }
    { w with page := { w.page with indent := outer } }
  | .mapping pairs =>
    let p := tagged "map" w.page
    let outer := p.indent
    let p := p.deeper false false
    let inner := p.indent
    let w := pairs.foldl (putPair g anchors put inner) { w with page := p }
    { w with page := { w.page with indent := outer } }

/-- Writes a node: its name where it is first met, and its alias afterwards. -/
def putNode (g : Graph) (anchors : List (NodeId × Nat)) : Nat → Spot → NodeId → Writing → Writing
  | 0, _, _, w => w
  | fuel + 1, spot, id, w =>
    let n := g.getD id ⟨tagOf "null", .scalar "null" none⟩
    match anchors.lookup id with
    | some k =>
      if w.written.contains id then
        { w with page := w.page.indicator ("*" ++ anchorName' k) true false false }
      else putContent g anchors (putNode g anchors fuel) spot n
        { page := w.page.indicator ("&" ++ anchorName' k) true false false, written := id :: w.written }
    | none => putContent g anchors (putNode g anchors fuel) spot n w

/-- The text of a document. -/
def layout (g : Graph) (root : NodeId) : String :=
  let w := putNode g (anchorsOf g root) (g.size + 2) ⟨false, false⟩ root ⟨Page.blank, []⟩
  ({ w.page with indent := none }.toIndent).out

end Stepwise.Document
