import Stepwise.Text.Cut
/-!
# Wrapping

A line is cut into chunks, which are words, parts of hyphenated words, dashes and the blanks between
them, and the chunks are laid out in lines of a width. Blanks at the ends of the lines are dropped.
-/

namespace Stepwise.Text.Wrap

private def isGap (c : Char) : Bool := ['\t', '\n', '\x0b', '\x0c', '\r', ' '].contains c
private def isLetter (c : Char) : Bool := isWordChar c && !isDecimal c

/-- What may stand in front of a dash between words. -/
private def endsWord (c : Char) : Bool := isWordChar c || "!\"'&.,?".toList.contains c

private def at? (p : Char → Bool) : List Char → Bool
  | c :: _ => p c
  | [] => false

/-- Do two dashes or more follow, and then a word? -/
private def dashAhead (s : List Char) : Bool :=
  let dashes := (s.takeWhile (· == '-')).length
  2 ≤ dashes && at? isWordChar (s.drop dashes)

/-- May a hyphenated word be cut behind the hyphen that was read last? Two letters or a letter, a hyphen and
a character stand in front of it, and two letters behind it, perhaps with a hyphen between. -/
private def cutsBehind (before after : List Char) : Bool :=
  let front := match before with
    | '-' :: a :: b :: r =>
      (isLetter a && isLetter b) ||
        (match r with
          | c :: _ => endsWord a && b == '-' && isLetter c
          | [] => false)
    | _ => false
  let back := match after with
    | a :: '-' :: b :: _ => isLetter a && isLetter b
    | a :: b :: _ => isLetter a && isLetter b
    | _ => false
  front && back

/-- The rest of a word: how far its first part goes. `before` is what was read, last first. -/
private def wordLength (hyphens : Bool) : Nat → List Char → List Char → Nat
  | n, _, [] => n
  | n, before, c :: r =>
    if n > 0 && (isGap c || (hyphens && at? endsWord before && dashAhead (c :: r))) then n
    else if hyphens && n > 0 && c == '-' && cutsBehind (c :: before) r then n + 1
    else wordLength hyphens (n + 1) (c :: before) r

private def chunkLoop (hyphens : Bool) : Nat → List Char → List Char → List (List Char)
  | 0, _, _ | _, _, [] => []
  | fuel + 1, before, s =>
    let gap := (s.takeWhile isGap).length
    let dashes := if hyphens && at? endsWord before && dashAhead s then (s.takeWhile (· == '-')).length else 0
    let n := if gap > 0 then gap else if dashes > 0 then dashes else max 1 (wordLength hyphens 0 before s)
    let part := s.take n
    part :: chunkLoop hyphens fuel (part.reverse ++ before) (s.drop n)

/-- The chunks of a line. With `hyphens`, words are cut behind hyphens and around dashes too. -/
def chunks (hyphens : Bool) (s : List Char) : List (List Char) := chunkLoop hyphens (s.length + 1) [] s

private def isBlankChunk (s : List Char) : Bool := s.all isBlank

/-- Takes chunks as long as they fit. -/
private def takeFitting (width : Nat) : Nat → List (List Char) → List (List Char) → List (List Char) × List (List Char) × Nat
  | used, line, [] => (line, [], used)
  | used, line, c :: r =>
    if used + c.length ≤ width then takeFitting width (used + c.length) (c :: line) r else (line, c :: r, used)

/-- Where a chunk that is too long is cut: behind its last hyphen that fits, or where the line ends. -/
private def breakAt (hyphens : Bool) (room : Nat) (chunk : List Char) : Nat :=
  if hyphens && room < chunk.length then
    match findLast ['-'] (chunk.take room) with
    | some k => if k > 0 && (chunk.take k).any (· != '-') then k + 1 else room
    | none => room
  else room

private def lineLoop (width : Nat) (breakLong hyphens : Bool) : Nat → Bool → List (List Char) → List (List Char)
  | 0, _, _ | _, _, [] => []
  | fuel + 1, first, c :: r =>
    let cs := if isBlankChunk c && !first then r else c :: r
    let (line, rest, used) := takeFitting width 0 [] cs
    let (line, rest) := match rest with
      | long :: more =>
        if long.length > width then
          if breakLong then
            let k := breakAt hyphens (width - used) long
            (long.take k :: line, long.drop k :: more)
          else if line.isEmpty then ([long], more)
          else (line, rest)
        else (line, rest)
      | [] => (line, rest)
    let line := match line with
      | last :: l => if isBlankChunk last then l else line
      | [] => []
    if line.isEmpty then lineLoop width breakLong hyphens fuel first rest
    else line.reverse.flatten :: lineLoop width breakLong hyphens fuel false rest

/-- The lines of a text in a width, which is not zero. -/
def lines (width : Nat) (breakLong hyphens : Bool) (s : List Char) : List (List Char) :=
  let cs := chunks hyphens s
  lineLoop width breakLong hyphens (2 * s.length + cs.length + 2) true cs

end Stepwise.Text.Wrap
