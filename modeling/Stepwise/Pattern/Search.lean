import Stepwise.Pattern.Tree
import Stepwise.Text.Chars
/-!
# Searching for patterns

A node is matched at a place of a text, and what follows it is handed on as a continuation; the
first way that leads to the end wins. The depth of the search is bounded by the nesting of the
pattern and the length of the text.
-/

namespace Stepwise.Pattern

open Text

/-- Where the groups matched, and which group was closed last. -/
structure Marks where
  groups : Array (Option (Nat × Nat))
  last : Option Nat
  deriving Inhabited

/-- The text that is searched, up to a limit. -/
structure Subject where
  chars : Array Char
  limit : Nat

namespace Subject

def char? (s : Subject) (i : Nat) : Option Char := if i < s.limit then s.chars[i]? else none

end Subject

private def foldOne (c : Char) : Char :=
  match lowerOf c with
  | [d] => d
  | _ => c

private def sameLetter (fold : Bool) (c d : Char) : Bool := c == d || (fold && foldOne c == foldOne d)

/-- Does a character belong to a class? -/
def ClassKind.has (k : ClassKind) (ascii : Bool) (c : Char) : Bool :=
  match k with
  | digit => if ascii then c.isDigit else isDecimal c
  | space => if ascii then c == ' ' || (9 ≤ c.toNat && c.toNat ≤ 13) else isBlank c
  | word => if ascii then c.isAlphanum || c == '_' else isWordChar c

def Item.has (i : Item) (c : Char) : Bool :=
  match i with
  | char d => c == d
  | range lo hi => lo ≤ c && c ≤ hi
  | cls k negated ascii => k.has ascii c != negated

private def setHas (fold : Bool) (items : List Item) (c : Char) : Bool :=
  let variants := if fold then
      c :: foldOne c :: (match upperOf c with | [d] => [d] | _ => [])
    else [c]
  variants.any fun c => items.any (·.has c)

private def isBoundary (s : Subject) (ascii : Bool) (i : Nat) : Bool :=
  let wordAt (c : Option Char) : Bool := (c.map (ClassKind.word.has ascii)).getD false
  let before := if i = 0 then false else wordAt (s.char? (i - 1))
  before != wordAt (s.char? i)

/-- The end of a group's text at a place, if that stands there again. -/
private def againAt (s : Subject) (fold : Bool) (lo hi i : Nat) : Option Nat :=
  let n := hi - lo
  let same := (List.range n).all fun k =>
    match s.char? (lo + k), s.char? (i + k) with
    | some c, some d => sameLetter fold c d
    | _, _ => false
  if same then some (i + n) else none

/-- What the rest of a match makes of the place and the marks that it starts with. -/
abbrev Go := Nat → Marks → Option (Nat × Marks)

mutual

/-- Matches a node at a place. -/
def matchNode (s : Subject) : Nat → Node → Nat → Marks → Go → Option (Nat × Marks)
  | 0, _, _, _, _ => none
  | fuel + 1, node, i, m, k =>
    let here (ok : Bool) : Option (Nat × Marks) := if ok then k i m else none
    let one (ok : Char → Bool) : Option (Nat × Marks) :=
      match s.char? i with
      | some c => if ok c then k (i + 1) m else none
      | none => none
    match node with
    | .char c fold => one (sameLetter fold c)
    | .any lines => one fun c => lines || c != '\n'
    | .set negated fold items => one fun c => setHas fold items c != negated
    | .textStart => here (i == 0)
    | .textEnd => here (i == s.limit)
    | .lineStart => here (i == 0 || s.char? (i - 1) == some '\n')
    | .lineEnd every =>
      here (i == s.limit || (i + 1 == s.limit || every) && s.char? i == some '\n')
    | .boundary negated ascii => here (isBoundary s ascii i != negated)
    | .seq ns => matchAll s fuel ns i m k
    | .alt ns => matchAny s fuel ns i m k
    | .group index n =>
      matchNode s fuel n i m fun j m =>
        k j { groups := m.groups.setIfInBounds index (some (i, j)), last := some index }
    | .repeated n least most greed =>
      match greed with
      | .all =>
        match matchRepeat s fuel n least most .most 0 none i m (fun j m => some (j, m)) with
        | some (j, m) => k j m
        | none => none
      | greed => matchRepeat s fuel n least most greed 0 none i m k
    | .back index fold =>
      match m.groups.getD index none with
      | some (x, y) =>
        match againAt s fold x y i with
        | some j => k j m
        | none => none
      | none => none
    | .look behind negated n =>
      let start := match behind with
        | none => some i
        | some w => if w ≤ i then some (i - w) else none
      let found := start.bind fun j => matchNode s fuel n j m fun j m => some (j, m)
      match found with
      | some (_, m') => if negated then none else k i m'
      | none => if negated then k i m else none
    | .atomic n =>
      match matchNode s fuel n i m (fun j m => some (j, m)) with
      | some (j, m) => k j m
      | none => none
    | .cond index yes no =>
      matchNode s fuel (if (m.groups.getD index none).isSome then yes else no) i m k

def matchAll (s : Subject) : Nat → List Node → Nat → Marks → Go → Option (Nat × Marks)
  | 0, _, _, _, _ => none
  | _ + 1, [], i, m, k => k i m
  | fuel + 1, n :: rest, i, m, k => matchNode s fuel n i m fun j m => matchAll s fuel rest j m k

def matchAny (s : Subject) : Nat → List Node → Nat → Marks → Go → Option (Nat × Marks)
  | 0, _, _, _, _ => none
  | _ + 1, [], _, _, _ => none
  | fuel + 1, n :: rest, i, m, k =>
    match matchNode s fuel n i m k with
    | some r => some r
    | none => matchAny s fuel rest i m k

/-- Matches a repetition that has matched `count` times. A round that starts where the one before
it started would go on for ever, so there is none. -/
def matchRepeat (s : Subject) : Nat → Node → Nat → Option Nat → Greed → Nat → Option Nat → Nat →
    Marks → Go → Option (Nat × Marks)
  | 0, _, _, _, _, _, _, _, _, _ => none
  | fuel + 1, n, least, most, greed, count, before, i, m, k =>
    let again (_ : Unit) : Option (Nat × Marks) :=
      matchNode s fuel n i m fun j m => matchRepeat s fuel n least most greed (count + 1) (some i) j m k
    if count < least then again ()
    else
      let mayGoOn := (match most with | some h => count < h | none => true) && before != some i
      match greed with
      | .least =>
        match k i m with
        | some r => some r
        | none => if mayGoOn then again () else none
      | _ =>
        if mayGoOn then
          match again () with
          | some r => some r
          | none => k i m
        else k i m

end

/-- How a match has to lie in the text. -/
inductive Anchor where
  /-- Anywhere from the start on. -/
  | anywhere
  | atStart
  /-- From the start to the end. -/
  | whole
  deriving DecidableEq, Inhabited

/-- The first match from a place on; `advance` refuses an empty one at the place itself. -/
def Compiled.find? (p : Compiled) (s : Subject) (start : Nat) (anchor : Anchor) (advance : Bool) :
    Option Marks :=
  let fuel := 1000000 + s.limit * 64
  let fresh : Marks := ⟨Array.replicate (p.groups + 1) none, none⟩
  let tryAt (i : Nat) : Option Marks :=
    let finish : Go := fun j m =>
      if anchor = .whole && j ≠ s.limit then none
      else if advance && i = start && j = start then none
      else some (j, m)
    (matchNode s fuel p.node i fresh finish).map fun (j, m) =>
      { m with groups := m.groups.setIfInBounds 0 (some (i, j)) }
  match anchor with
  | .anywhere => (List.range' start (s.limit + 1 - start)).findSome? tryAt
  | _ => if start ≤ s.limit then tryAt start else none

/-- All matches from a place on, one behind the other. -/
def Compiled.findAll (p : Compiled) (s : Subject) (start : Nat) : List Marks :=
  go (2 * (s.limit + 2)) start false
where
  go : Nat → Nat → Bool → List Marks
    | 0, _, _ => []
    | fuel + 1, i, advance =>
      match p.find? s i .anywhere advance with
      | none => []
      | some m =>
        match m.groups.getD 0 none with
        | some (x, y) => m :: go fuel y (x == y)
        | none => []

end Stepwise.Pattern
