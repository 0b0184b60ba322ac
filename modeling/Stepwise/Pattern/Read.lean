import Stepwise.Pattern.Tree
import Stepwise.Number.Read
import Stepwise.Text.Case
import Stepwise.Text.Names
import Stepwise.Text.Quoted
/-!
# Reading patterns

A pattern is read from left to right, group by group. A fault is placed a number of characters
before the point that reading has reached.
-/

namespace Stepwise.Pattern

/-- What reading has come to. -/
structure ReadState where
  rest : List Char
  position : Nat
  flags : Flags
  /-- Groups that were opened, the whole match counted. -/
  groups : Nat := 1
  /-- Closed groups and their widths. -/
  closed : List (Nat × Nat × Option Nat) := []
  names : List (String × Nat) := []
  /-- Groups that conditions refer to by number, and where. -/
  references : List (Nat × Nat) := []
  /-- The first group that would lie inside the look-behind that is being read. -/
  behind : Option Nat := none
  deriving Inhabited

/-- Why reading stops: a fault, or a number beyond what a repetition can count. -/
inductive Refusal where
  | fault (f : Fault)
  | tooMany
  deriving DecidableEq, Inhabited

abbrev Reading := StateT ReadState (Except Refusal)

namespace Reading

variable {α : Type}

/-- Stops with a fault that lies so many characters back. -/
def fail (message : String) (back : Nat := 0) : Reading α := do
  throw (.fault ⟨message, some ((← get).position - back)⟩)

/-- The next token: a character, or a backslash and the character behind it. -/
def peek : Reading (Option (List Char)) := do
  let s ← get
  match s.rest with
  | [] => return none
  | ['\\'] => throw (.fault ⟨"bad escape (end of pattern)", some s.position⟩)
  | '\\' :: c :: _ => return some ['\\', c]
  | c :: _ => return some [c]

def take : Reading (Option (List Char)) := do
  let t ← peek
  let n := (t.getD []).length
  modify fun s => { s with rest := s.rest.drop n, position := s.position + n }
  return t

/-- Takes a character if it comes next. -/
def accept (c : Char) : Reading Bool := do
  if (← peek) == some [c] then
    let _ ← take
    return true
  else return false

/-- Takes at most `n` characters of a kind. -/
def takeWhile (n : Nat) (p : Char → Bool) : Reading (List Char) := do
  let s ← get
  let cs := (s.rest.takeWhile p).take n
  set { s with rest := s.rest.drop cs.length, position := s.position + cs.length }
  return cs

/-- Takes a name up to a terminator. -/
def takeName (terminator : Char) (what : String) : Reading (List Char) := do
  let rec go : Nat → List Char → Reading (List Char)
    | 0, acc => return acc
    | fuel + 1, acc => do
      match ← take with
      | none =>
        if acc.isEmpty then fail ("missing " ++ what)
        else fail ("missing " ++ String.singleton terminator ++ ", unterminated name") acc.length
      | some t =>
        if t == [terminator] then
          if acc.isEmpty then fail ("missing " ++ what) 1 else return acc
        else go fuel (acc ++ t)
  go ((← get).rest.length + 1) []

/-- Takes the name of a group. -/
def takeGroupName (terminator : Char) : Reading String := do
  let name ← takeName terminator "group name"
  if !Text.isName name then
    fail ("bad character in group name " ++ Text.quoted (String.ofList name)) (name.length + 1)
  return String.ofList name

end Reading

open Reading

/-! ## Escapes -/

private def isHex (c : Char) : Bool := c.isDigit || ('a' ≤ c.toLower && c.toLower ≤ 'f')
def isOctal (c : Char) : Bool := '0' ≤ c && c ≤ '7'

/-- The number that digits spell. -/
def numberIn (base : Nat) (ds : List Char) : Nat :=
  Number.valueOfDigits base (ds.filterMap Number.digitValue?)

private def controlEscape? : Char → Option Char
  | 'a' => some '\x07'
  | 'f' => some '\x0c'
  | 'n' => some '\n'
  | 'r' => some '\r'
  | 't' => some '\t'
  | 'v' => some '\x0b'
  | '\\' => some '\\'
  | _ => none

private def classEscape? : Char → Option (ClassKind × Bool)
  | 'd' => some (.digit, false)
  | 'D' => some (.digit, true)
  | 's' => some (.space, false)
  | 'S' => some (.space, true)
  | 'w' => some (.word, false)
  | 'W' => some (.word, true)
  | _ => none

/-- The character of an escape that gives its number or its name, if it is one of these. -/
private def codeEscape? (c : Char) : Reading (Option Char) := do
  let digits (n : Nat) : Reading (Option Char) := do
    let ds ← Reading.takeWhile n isHex
    if ds.length ≠ n then
      fail ("incomplete escape \\" ++ String.ofList (c :: ds)) (ds.length + 2)
    let k := numberIn 16 ds
    if k ≥ 0x110000 then fail ("bad escape \\" ++ String.ofList (c :: ds)) (ds.length + 2)
    return some (Char.ofNat k)
  match c with
  | 'x' => digits 2
  | 'u' => digits 4
  | 'U' => digits 8
  | 'N' =>
    if !(← accept '\x7b') then fail "missing \x7b"
    let name ← takeName '\x7d' "character name"
    match Text.charNamed? (String.ofList name) with
    | some c => return some c
    | none =>
      fail ("undefined character name " ++ Text.quoted (String.ofList name)) (name.length + 4)
  | _ => return none

private def octal (ds : List Char) : Reading Char := do
  let n := numberIn 8 ds
  if n > 255 then
    fail ("octal escape value \\" ++ String.ofList ds ++ " outside of range 0-0o377") (ds.length + 1)
  return Char.ofNat n

private def badEscape {α : Type} (c : Char) : Reading α := fail ("bad escape \\" ++ String.singleton c) 2

/-- Refuses a group that is still open, or that lies inside the same look-behind. -/
private def checkGroup (g back : Nat) : Reading Unit := do
  let s ← get
  if !(s.closed.any (·.1 == g)) then fail "cannot refer to an open group" back

private def checkBehind (g : Nat) : Reading Unit := do
  let s ← get
  match s.behind with
  | none => return ()
  | some first =>
    if !(s.closed.any (·.1 == g)) then fail "cannot refer to an open group"
    if g ≥ first then fail "cannot refer to group defined in the same lookbehind subpattern"

/-- What an escape stands for outside of sets. -/
private def escape (flags : Flags) (c : Char) : Reading Node := do
  let literal (c : Char) : Node := .char c flags.ignoreCase
  match c, classEscape? c, controlEscape? c with
  | 'A', _, _ => return .textStart
  | 'Z', _, _ => return .textEnd
  | 'b', _, _ => return .boundary false flags.ascii
  | 'B', _, _ => return .boundary true flags.ascii
  | _, some (k, negated), _ => return .set false false [.cls k negated flags.ascii]
  | _, _, some d => return literal d
  | _, _, _ =>
    match ← codeEscape? c with
    | some d => return literal d
    | none =>
      if c == '0' then return literal (← octal ('0' :: (← Reading.takeWhile 2 isOctal)))
      else if c.isDigit then
        let second ← Reading.takeWhile 1 Char.isDigit
        let third ← if isOctal c && second.any isOctal then Reading.takeWhile 1 isOctal else pure []
        if !third.isEmpty then return literal (← octal (c :: second ++ third))
        else
          let ds := c :: second
          let g := numberIn 10 ds
          if g < (← get).groups then
            checkGroup g (ds.length + 1)
            checkBehind g
            return .back g flags.ignoreCase
          else fail ("invalid group reference " ++ toString g) ds.length
      else if c.isAlpha then badEscape c
      else return literal c

/-- What an escape stands for in a set. -/
private def setEscape (flags : Flags) (c : Char) : Reading Item := do
  match c, classEscape? c, controlEscape? c with
  | 'b', _, _ => return .char '\x08'
  | _, some (k, negated), _ => return .cls k negated flags.ascii
  | _, _, some d => return .char d
  | _, _, _ =>
    match ← codeEscape? c with
    | some d => return .char d
    | none =>
      if isOctal c then return .char (← octal (c :: (← Reading.takeWhile 2 isOctal)))
      else if c.isDigit || c.isAlpha then badEscape c
      else return .char c

/-! ## Sets -/

/-- One member of a set and how it was written. -/
private def setMember (flags : Flags) (token : List Char) : Reading Item :=
  match token with
  | ['\\', c] => setEscape flags c
  | c :: _ => return .char c
  | [] => return .char ' '

private def setItems (flags : Flags) (start : Nat) : Nat → List Item → Reading (List Item)
  | 0, acc => return acc.reverse
  | fuel + 1, acc => do
    let unterminated {α : Type} : Reading α := do
      fail "unterminated character set" ((← get).position - start)
    match ← take with
    | none => unterminated
    | some token =>
      if token == [']'] && !acc.isEmpty then return acc.reverse
      else
        let first ← setMember flags token
        if ← accept '-' then
          match ← take with
          | none => unterminated
          | some that =>
            if that == [']'] then return (.char '-' :: first :: acc).reverse
            else
              let second ← setMember flags that
              let refuse {α : Type} : Reading α :=
                fail ("bad character range " ++ String.ofList token ++ "-" ++ String.ofList that)
                  (token.length + 1 + that.length)
              match first, second with
              | .char lo, .char hi =>
                if hi < lo then refuse else setItems flags start fuel (.range lo hi :: acc)
              | _, _ => refuse
        else setItems flags start fuel (first :: acc)

/-! ## Switches -/

private def switch? (c : Char) : Option (Flags → Bool → Flags) :=
  match c with
  | 'i' => some fun f b => { f with ignoreCase := b }
  | 'm' => some fun f b => { f with multiline := b }
  | 's' => some fun f b => { f with dotAll := b }
  | 'x' => some fun f b => { f with verbose := b }
  | 'a' => some fun f b => { f with ascii := b }
  | 'u' => some fun f b => if b then { f with ascii := false } else f
  | 't' | 'L' => some fun f _ => f
  | _ => none

private def isSwitch (c : Char) : Bool := (switch? c).isSome

private def unknownSwitch {α : Type} (t : List Char) (otherwise : String) : Reading α :=
  fail (if t.all Text.isLetter then "unknown flag" else otherwise) t.length

/-- Switches that are turned on: their letters and the character that ends them. -/
private def switchesOn : Nat → Char → List Char → Reading (List Char × Char)
  | 0, _, acc => return (acc, ')')
  | fuel + 1, c, acc => do
    if c == 'L' then fail "bad inline flags: cannot use 'L' flag with a str pattern"
    let acc := c :: acc
    if acc.contains 'a' && acc.contains 'u' then
      fail "bad inline flags: flags 'a', 'u' and 'L' are incompatible"
    match ← take with
    | none => fail "missing -, : or )"
    | some [d] =>
      if d == ')' || d == '-' || d == ':' then return (acc, d)
      else if isSwitch d then switchesOn fuel d acc
      else unknownSwitch [d] "missing -, : or )"
    | some t => unknownSwitch t "missing -, : or )"

private def switchesOff : Nat → Char → List Char → Reading (List Char)
  | 0, _, acc => return acc
  | fuel + 1, c, acc => do
    if c == 'a' || c == 'u' || c == 'L' then
      fail "bad inline flags: cannot turn off flags 'a', 'u' and 'L'"
    let acc := c :: acc
    match ← take with
    | none => fail "missing :"
    | some [d] =>
      if d == ':' then return acc
      else if isSwitch d then switchesOff fuel d acc
      else unknownSwitch [d] "missing :"
    | some t => unknownSwitch t "missing :"

private def applySwitches (on off : List Char) (f : Flags) : Flags :=
  let set (b : Bool) (f : Flags) (c : Char) : Flags := ((switch? c).map (· f b)).getD f
  off.foldl (set false) (on.foldl (set true) f)

/-- Switches of a group, or none if they hold for the whole pattern. -/
private def switches (c : Char) : Reading (Option (Flags → Flags)) := do
  let fuel := (← get).rest.length + 2
  let (on, ending) ← if c == '-' then pure ([], '-') else switchesOn fuel c []
  if ending == ')' then
    modify fun s => { s with flags := applySwitches on [] s.flags }
    return none
  let off ← if ending == '-' then do
      match ← take with
      | none => fail "missing flag"
      | some [d] => if isSwitch d then switchesOff fuel d [] else unknownSwitch [d] "missing flag"
      | some t => unknownSwitch t "missing flag"
    else pure []
  if on.any off.contains then fail "bad inline flags: flag turned on and off" 1
  return some (applySwitches on off)

/-! ## Repetitions -/

/-- The greatest count of a repetition. -/
private def repeatLimit : Nat := 4294967295

private def isAnchor : Node → Bool
  | .textStart | .textEnd | .lineStart | .lineEnd _ | .boundary .. => true
  | _ => false

private def isRepeated : Node → Bool
  | .repeated .. => true
  | _ => false

/-- The bounds in braces; none if the brace stands for itself. -/
private def braces : Reading (Option (Nat × Option Nat)) := do
  let s ← get
  if s.rest.head? == some '\x7d' then return none
  let lo ← Reading.takeWhile s.rest.length Char.isDigit
  let hi ← if ← accept ',' then Reading.takeWhile s.rest.length Char.isDigit else pure lo
  if !(← accept '\x7d') then
    set s
    return none
  let least := numberIn 10 lo
  if least ≥ repeatLimit then throw .tooMany
  if hi.isEmpty then return some (least, none)
  let most := numberIn 10 hi
  if most ≥ repeatLimit then throw .tooMany
  if most < least then
    fail "min repeat greater than max repeat" ((← get).position - s.position)
  return some (least, some most)

/-! ## Groups and branches -/

private def openGroup (name : Option String) : Reading Nat := do
  let s ← get
  let g := s.groups
  match name with
  | none => pure ()
  | some n =>
    match s.names.lookup n with
    | some old =>
      fail ("redefinition of group name " ++ Text.quoted n ++ " as group " ++ toString g ++
        "; was group " ++ toString old) (n.length + 1)
    | none => pure ()
  set { s with groups := g + 1, names := s.names ++ (name.map fun n => (n, g)).toList }
  return g

private def knownWidth (s : ReadState) (g : Nat) : Nat × Option Nat := (s.closed.lookup g).getD (0, none)

private def closeGroup (g : Nat) (n : Node) : Reading Unit :=
  modify fun s => { s with closed := (g, n.width (knownWidth s)) :: s.closed }

private def expectClosing (start : Nat) : Reading Unit := do
  if !(← accept ')') then
    fail "missing ), unterminated subpattern" ((← get).position - start)

private def skipComment (start : Nat) : Nat → Reading Unit
  | 0 => return ()
  | fuel + 1 => do
    match ← take with
    | none => fail "missing ), unterminated comment" ((← get).position - start)
    | some t => if t == [')'] then return () else skipComment start fuel

private def skipLine : Nat → Reading Unit
  | 0 => return ()
  | fuel + 1 => do
    match ← take with
    | none => return ()
    | some t => if t == ['\n'] then return () else skipLine fuel

mutual

/-- Branches between bars. -/
private def branches : Nat → (Flags → Flags) → Bool → Reading Node
  | 0, _, _ => return .seq []
  | fuel + 1, scope, outermost => do
    let first ← items fuel scope outermost []
    let rest ← moreBranches fuel scope []
    return if rest.isEmpty then .seq first else .alt (.seq first :: rest)

private def moreBranches : Nat → (Flags → Flags) → List Node → Reading (List Node)
  | 0, _, acc => return acc.reverse
  | fuel + 1, scope, acc => do
    if ← accept '|' then
      let b ← items fuel scope false []
      moreBranches fuel scope (.seq b :: acc)
    else return acc.reverse

/-- The items of one branch, last first in `acc`. -/
private def items : Nat → (Flags → Flags) → Bool → List Node → Reading (List Node)
  | 0, _, _, acc => return acc.reverse
  | fuel + 1, scope, first, acc => do
    let flags := scope (← get).flags
    let next (n : Node) : Reading (List Node) := items fuel scope first (n :: acc)
    match ← peek with
    | none | some ['|'] | some [')'] => return acc.reverse
    | some token =>
      let _ ← take
      match token with
      | ['\\', c] => next (← escape flags c)
      | [c] =>
        if flags.verbose && Text.isAsciiBlank c then items fuel scope first acc
        else if flags.verbose && c == '#' then
          skipLine ((← get).rest.length + 1)
          items fuel scope first acc
        else
          match c with
          | '.' => next (.any flags.dotAll)
          | '^' => next (if flags.multiline then .lineStart else .textStart)
          | '$' => next (.lineEnd flags.multiline)
          | '[' =>
            let start := (← get).position - 1
            let negated ← accept '^'
            let members ← setItems flags start ((← get).rest.length + 1) []
            next (.set negated flags.ignoreCase members)
          | '(' =>
            match ← group fuel scope first acc.isEmpty with
            | some n => next n
            | none => items fuel scope first acc
          | '*' | '+' | '?' | '\x7b' =>
            let here := (← get).position
            let bounds ← match c with
              | '*' => pure (some (0, none))
              | '+' => pure (some (1, none))
              | '?' => pure (some (0, some 1))
              | _ => braces
            match bounds with
            | none => next (.char c flags.ignoreCase)
            | some (least, most) =>
              let back := (← get).position - here + 1
              match acc with
              | [] => fail "nothing to repeat" back
              | n :: before =>
                if isAnchor n then fail "nothing to repeat" back
                if isRepeated n then fail "multiple repeat" back
                let greed ← if ← accept '?' then pure Greed.least
                  else if ← accept '+' then pure Greed.all
                  else pure Greed.most
                items fuel scope first (.repeated n least most greed :: before)
          | c => next (.char c flags.ignoreCase)
      | _ => items fuel scope first acc

/-- What stands in parentheses; nothing for comments and switches. -/
private def group : Nat → (Flags → Flags) → Bool → Bool → Reading (Option Node)
  | 0, _, _, _ => return none
  | fuel + 1, scope, first, atStart => do
    let start := (← get).position - 1
    let capture (name : Option String) : Reading (Option Node) := do
      let g ← openGroup name
      let n ← branches fuel scope false
      expectClosing start
      closeGroup g n
      return some (.group g n)
    let plain (scope : Flags → Flags) (wrap : Node → Node) : Reading (Option Node) := do
      let n ← branches fuel scope false
      expectClosing start
      -- a group of its own, so that what is repeated is the whole
      return some (wrap (.seq [n]))
    if !(← accept '?') then capture none
    else
      match ← take with
      | none => fail "unexpected end of pattern"
      | some ['P'] =>
        if ← accept '<' then capture (some (← takeGroupName '>'))
        else if ← accept '=' then
          let name ← takeGroupName ')'
          match (← get).names.lookup name with
          | none => fail ("unknown group name " ++ Text.quoted name) (name.length + 1)
          | some g =>
            checkGroup g (name.length + 1)
            checkBehind g
            return some (.back g (scope (← get).flags).ignoreCase)
        else
          match ← take with
          | none => fail "unexpected end of pattern"
          | some t => fail ("unknown extension ?P" ++ String.ofList t) (t.length + 2)
      | some [':'] => plain scope id
      | some ['>'] => plain scope .atomic
      | some ['#'] => do skipComment start ((← get).rest.length + 1); return none
      | some ['='] => look fuel scope start none false
      | some ['!'] => look fuel scope start none true
      | some ['<'] =>
        match ← take with
        | none => fail "unexpected end of pattern"
        | some t =>
          if t != ['='] && t != ['!'] then fail ("unknown extension ?<" ++ String.ofList t) (t.length + 2)
          let old := (← get).behind
          modify fun s => { s with behind := some (old.getD s.groups) }
          let n ← look fuel scope start (some 0) (t == ['!'])
          modify fun s => { s with behind := old }
          return n
      | some ['('] =>
        let name ← takeName ')' "group name"
        let g ← if name.all Char.isDigit then do
            let g := numberIn 10 name
            if g = 0 then fail "bad group number" (name.length + 1)
            modify fun s =>
              if s.references.any (·.1 == g) then s
              else { s with references := s.references ++ [(g, s.position - name.length - 1)] }
            pure g
          else do
            if !Text.isName name then
              fail ("bad character in group name " ++ Text.quoted (String.ofList name)) (name.length + 1)
            match (← get).names.lookup (String.ofList name) with
            | none => fail ("unknown group name " ++ Text.quoted (String.ofList name)) (name.length + 1)
            | some g => pure g
        checkBehind g
        let yes ← items fuel scope false []
        let no ← if ← accept '|' then do
            let no ← items fuel scope false []
            if (← peek) == some ['|'] then fail "conditional backref with more than two branches"
            pure no
          else pure []
        expectClosing start
        return some (.cond g (.seq yes) (.seq no))
      | some [c] =>
        if isSwitch c || c == '-' then
          match ← switches c with
          | none =>
            if !first || !atStart then
              fail "global flags not at the start of the expression" ((← get).position - start)
            return none
          | some change => plain (fun f => change (scope f)) id
        else fail ("unknown extension ?" ++ String.singleton c) 2
      | some t => fail ("unknown extension ?" ++ String.ofList t) (t.length + 1)

private def look : Nat → (Flags → Flags) → Nat → Option Nat → Bool → Reading (Option Node)
  | 0, _, _, _, _ => return none
  | fuel + 1, scope, start, behind, negated => do
    let n ← branches fuel scope false
    expectClosing start
    match behind with
    | none => return some (.look none negated n)
    | some _ =>
      let s ← get
      match n.width (knownWidth s) with
      | (a, some b) =>
        if a = b then return some (.look (some a) negated n)
        else throw (.fault ⟨"look-behind requires fixed-width pattern", none⟩)
      | _ => throw (.fault ⟨"look-behind requires fixed-width pattern", none⟩)

end

/-- Reads a pattern. -/
def read (flags : Flags) (s : List Char) : Except Refusal Compiled := do
  let start : ReadState := { rest := s, position := 0, flags }
  let act : Reading Node := do
    let n ← branches (8 * s.length + 8) id true
    if (← peek).isSome then fail "unbalanced parenthesis"
    let st ← get
    match st.references.find? (fun (g, _) => g ≥ st.groups) with
    | some (g, at') => throw (.fault ⟨"invalid group reference " ++ toString g, some at'⟩)
    | none => return n
  let (n, st) ← act.run start
  return { node := n, flags := st.flags, groups := st.groups - 1, names := st.names }

end Stepwise.Pattern
