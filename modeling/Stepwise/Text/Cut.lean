import Stepwise.Text.Chars
/-!
# Trimming, searching and cutting

Functions on lists of characters that trim, search, split, fill and replace. Every search goes
from left to right over non-overlapping occurrences; the functions whose names end in `Last`
go from the right.
-/

namespace Stepwise.Text

/-! ## Trimming -/

def trimLeft (p : Char → Bool) (s : List Char) : List Char := s.dropWhile p
def trimRight (p : Char → Bool) (s : List Char) : List Char := (s.reverse.dropWhile p).reverse
def trim (p : Char → Bool) (s : List Char) : List Char := trimRight p (trimLeft p s)

/-- The text without blank characters at its ends. -/
def trimBlank (s : String) : String := String.ofList (trim isBlank s.toList)

/-- A text with nothing but blank characters. -/
def isBlankText (s : String) : Bool := s.toList.all isBlank

/-! ## Searching -/

/-- The rest after `pat`, if the text starts with it. -/
def afterStart? : List Char → List Char → Option (List Char)
  | [], s => some s
  | _ :: _, [] => none
  | p :: ps, c :: cs => if p = c then afterStart? ps cs else none

def startsWith (pat s : List Char) : Bool := (afterStart? pat s).isSome
def endsWith (pat s : List Char) : Bool := startsWith pat.reverse s.reverse

/-- The first place at or after `i` where `pat` occurs, `s` being the text from `i` on. -/
def findFrom (pat : List Char) (i : Nat) (s : List Char) : Option Nat :=
  match s with
  | [] => if pat.isEmpty then some i else none
  | c :: cs => if startsWith pat (c :: cs) then some i else findFrom pat (i + 1) cs

/-- The last place where `pat` occurs in `s`. -/
def findLast (pat s : List Char) : Option Nat :=
  match findFrom pat.reverse 0 s.reverse with
  | some k => some (s.length - k - pat.length)
  | none => none

/-- Cuts at the first `pat`: what is before it and what is after it. -/
def cutFirst (pat s : List Char) : Option (List Char × List Char) :=
  match findFrom pat 0 s with
  | some k => some (s.take k, s.drop (k + pat.length))
  | none => none

def cutLast (pat s : List Char) : Option (List Char × List Char) :=
  match findLast pat s with
  | some k => some (s.take k, s.drop (k + pat.length))
  | none => none

private def countLoop (pat : List Char) : Nat → List Char → Nat → Nat
  | 0, _, n => n
  | fuel + 1, s, n =>
    match cutFirst pat s with
    | some (_, rest) => countLoop pat fuel rest (n + 1)
    | none => n

/-- How often `pat` occurs; the empty text occurs between all characters. -/
def countOf (pat s : List Char) : Nat :=
  if pat.isEmpty then s.length + 1 else countLoop pat (s.length + 1) s 0

/-! ## Splitting -/

private def splitLoop (sep : List Char) : Nat → Nat → List Char → List (List Char)
  | 0, _, s => [s]
  | fuel + 1, max, s =>
    if max = 0 then [s]
    else match cutFirst sep s with
      | some (a, rest) => a :: splitLoop sep fuel (max - 1) rest
      | none => [s]

/-- Splits at `sep` (not empty), at most `max` times. -/
def splitOn (sep : List Char) (max : Option Nat) (s : List Char) : List (List Char) :=
  splitLoop sep (s.length + 1) (max.getD (s.length + 1)) s

/-- Splits at `sep`, at most `max` times, counted from the right. -/
def splitOnLast (sep : List Char) (max : Option Nat) (s : List Char) : List (List Char) :=
  ((splitOn sep.reverse max s.reverse).map List.reverse).reverse

private def splitBlankLoop (blank : Char → Bool) : Nat → Nat → List Char → List (List Char)
  | 0, _, _ => []
  | fuel + 1, max, s =>
    match s.dropWhile blank with
    | [] => []
    | s' =>
      if max = 0 then [s']
      else s'.takeWhile (fun c => !blank c) ::
        splitBlankLoop blank fuel (max - 1) (s'.dropWhile (fun c => !blank c))

/-- The words between runs of blank characters; after `max` of them the rest stays whole, with
the blanks at its end. -/
def splitBlank (max : Option Nat) (s : List Char) (blank : Char → Bool := isBlank) : List (List Char) :=
  splitBlankLoop blank (s.length + 1) (max.getD (s.length + 1)) s

def splitBlankLast (max : Option Nat) (s : List Char) (blank : Char → Bool := isBlank) :
    List (List Char) :=
  ((splitBlank max s.reverse blank).map List.reverse).reverse

private def linesLoop (isEnd : Char → Bool) (keepEnds : Bool) :
    Nat → List Char → List (List Char)
  | 0, _ => []
  | _, [] => []
  | fuel + 1, s =>
    let line := s.takeWhile (fun c => !isEnd c)
    match s.dropWhile (fun c => !isEnd c) with
    | [] => [line]
    | '\r' :: '\n' :: rest =>
      (if keepEnds then line ++ ['\r', '\n'] else line) :: linesLoop isEnd keepEnds fuel rest
    | e :: rest =>
      (if keepEnds then line ++ [e] else line) :: linesLoop isEnd keepEnds fuel rest

/-- The lines between line ends of a kind; a line end at the very end opens no further line. -/
def splitLinesAt (isEnd : Char → Bool) (keepEnds : Bool) (s : List Char) : List (List Char) :=
  linesLoop isEnd keepEnds (s.length + 1) s

/-- The lines of a text. -/
def splitLines (keepEnds : Bool) (s : List Char) : List (List Char) := splitLinesAt isLineEnd keepEnds s

/-! ## Replacing and filling -/

private def replaceLoop (old new : List Char) : Nat → Nat → List Char → List Char
  | 0, _, s => s
  | fuel + 1, max, s =>
    if max = 0 then s
    else match cutFirst old s with
      | some (a, rest) => a ++ new ++ replaceLoop old new fuel (max - 1) rest
      | none => s

private def interleave (new : List Char) : Nat → List Char → List Char
  | 0, s => s
  | _ + 1, [] => new
  | n + 1, c :: cs => new ++ c :: interleave new n cs

/-- Replaces `old` by `new`, at most `max` times. An empty `old` stands before every character
and at the end. -/
def replace (old new : List Char) (max : Option Nat) (s : List Char) : List Char :=
  let limit := max.getD (s.length + 1)
  if old.isEmpty then interleave new limit s
  else replaceLoop old new (s.length + 1) limit s

/-- Replaces every `old` by `new`. -/
def replaceAll (old new s : String) : String :=
  String.ofList (replace old.toList new.toList none s.toList)

def padLeft (width : Nat) (fill : Char) (s : List Char) : List Char :=
  List.replicate (width - s.length) fill ++ s

def padRight (width : Nat) (fill : Char) (s : List Char) : List Char :=
  s ++ List.replicate (width - s.length) fill

/-- Centres a text; an odd rest goes to the left exactly when the width is odd as well. -/
def centre (width : Nat) (fill : Char) (s : List Char) : List Char :=
  let gap := width - s.length
  let left := gap / 2 + (if gap % 2 = 1 && width % 2 = 1 then 1 else 0)
  List.replicate left fill ++ s ++ List.replicate (gap - left) fill

/-- Fills with zeros on the left, after a sign. -/
def zeroFill (width : Nat) : List Char → List Char
  | c :: cs =>
    if c = '+' || c = '-' then c :: padLeft (width - 1) '0' cs else padLeft width '0' (c :: cs)
  | [] => padLeft width '0' []

private def tabsLoop (size : Nat) : Nat → List Char → List Char
  | _, [] => []
  | col, c :: cs =>
    if c = '\t' then
      let n := if size = 0 then 0 else size - col % size
      List.replicate n ' ' ++ tabsLoop size (col + n) cs
    else c :: tabsLoop size (if c = '\n' || c = '\r' then 0 else col + 1) cs

/-- Replaces tabs by blanks up to the next multiple of `size`. -/
def expandTabs (size : Nat) (s : List Char) : List Char := tabsLoop size 0 s

/-- Joins texts with a separator. -/
def joinWith (sep : String) (parts : List String) : String := String.intercalate sep parts

end Stepwise.Text
