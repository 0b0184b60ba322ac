import Stepwise.Text.Chars
/-!
# Case of whole texts

The case mappings of `Stepwise.Text.Chars` extended to texts: a sigma at the end of a word has
its own lower-case form, and a title starts a new word after every character without case.
-/

namespace Stepwise.Text

/-- Is the sigma between these characters (nearest first) the last letter of its word? -/
private def sigmaIsFinal (before after : List Char) : Bool :=
  let look (cs : List Char) : Bool :=
    match cs.dropWhile isCaseIgnorable with
    | c :: _ => isCased c
    | [] => false
  look before && !look after

private def lowerFrom (before : List Char) : List Char → List Char
  | [] => []
  | c :: rest =>
    (if c.toNat = 0x3a3 then [if sigmaIsFinal before rest then 'ς' else 'σ'] else lowerOf c)
      ++ lowerFrom (c :: before) rest

def lowerChars (s : List Char) : List Char := lowerFrom [] s

def upperChars (s : List Char) : List Char := s.flatMap upperOf

def foldChars (s : List Char) : List Char := s.flatMap foldOf

private def lowerOne (before rest : List Char) (c : Char) : List Char :=
  if c.toNat = 0x3a3 then [if sigmaIsFinal before rest then 'ς' else 'σ'] else lowerOf c

def capitalizeChars : List Char → List Char
  | [] => []
  | c :: rest => titleOf c ++ lowerFrom [c] rest

private def titleFrom (before : List Char) (inWord : Bool) : List Char → List Char
  | [] => []
  | c :: rest =>
    (if inWord then lowerOne before rest c else titleOf c)
      ++ titleFrom (c :: before) (isCased c) rest

def titleChars (s : List Char) : List Char := titleFrom [] false s

private def swapFrom (before : List Char) : List Char → List Char
  | [] => []
  | c :: rest =>
    (if isUpper c then lowerOne before rest c else if isLower c then upperOf c else [c])
      ++ swapFrom (c :: before) rest

def swapCaseChars (s : List Char) : List Char := swapFrom [] s

def lower (s : String) : String := String.ofList (lowerChars s.toList)
def upper (s : String) : String := String.ofList (upperChars s.toList)

/-- No upper-case or title-case character, and at least one lower-case one. -/
def allLower (s : List Char) : Bool :=
  !s.any (fun c => isUpper c || isTitle c) && s.any isLower

def allUpper (s : List Char) : Bool :=
  !s.any (fun c => isLower c || isTitle c) && s.any isUpper

private def titleShape : Bool → Bool → List Char → Bool
  | _, cased, [] => cased
  | prevCased, cased, c :: rest =>
    if isUpper c || isTitle c then (if prevCased then false else titleShape true true rest)
    else if isLower c then (if prevCased then titleShape true true rest else false)
    else titleShape false cased rest

/-- Words that start in upper case and go on in lower case, and at least one of them. -/
def isTitleShaped (s : List Char) : Bool := titleShape false false s

/-- A name: a start character and then parts. -/
def isName : List Char → Bool
  | [] => false
  | c :: rest => isNameStart c && rest.all isNamePart

end Stepwise.Text
