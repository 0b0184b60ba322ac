import Stepwise.Text.CharTable
/-!
# Classes of characters and case mappings

Blank characters are listed here in full, since so much of the library trims and splits by
them. Every other class is read off a character's general category, with the few exceptions
that the Unicode properties make.
-/

namespace Stepwise.Text

/-- The general categories, in the order of the letters that the table uses. -/
inductive Category where
  | upperLetter | lowerLetter | titleLetter | modifierLetter | otherLetter
  | mark | spacingMark | enclosingMark
  | decimalNumber | letterNumber | otherNumber
  | connector | dash | openPunct | closePunct | initialQuote | finalQuote | otherPunct
  | math | currency | modifierSymbol | otherSymbol
  | space | line | paragraph
  | control | format | surrogate | privateUse | unassigned
  deriving DecidableEq, Inhabited

namespace Category

/-- The category that a letter of the table stands for. -/
def ofLetter : Char → Category
  | 'A' => upperLetter | 'B' => lowerLetter | 'C' => titleLetter | 'D' => modifierLetter
  | 'E' => otherLetter | 'F' => mark | 'G' => spacingMark | 'H' => enclosingMark
  | 'I' => decimalNumber | 'J' => letterNumber | 'K' => otherNumber | 'L' => connector
  | 'M' => dash | 'N' => openPunct | 'O' => closePunct | 'P' => initialQuote
  | 'Q' => finalQuote | 'R' => otherPunct | 'S' => math | 'T' => currency
  | 'U' => modifierSymbol | 'V' => otherSymbol | 'W' => space | 'X' => line
  | 'Y' => paragraph | 'Z' => control | 'a' => format | 'b' => surrogate
  | 'c' => privateUse | _ => unassigned

/-- Letters of every kind. -/
def isLetter : Category → Bool
  | upperLetter | lowerLetter | titleLetter | modifierLetter | otherLetter => true
  | _ => false

/-- Categories whose characters are written as escapes rather than shown. -/
def isHidden : Category → Bool
  | space | line | paragraph | control | format | surrogate | privateUse | unassigned => true
  | _ => false

end Category

/-! ## Decoding the tables -/

/-- One step of reading the run-length text: a letter closes the run before it. -/
private def readRun (acc : Array (Nat × Category) × Nat × Nat × Category) (c : Char) :
    Array (Nat × Category) × Nat × Nat × Category :=
  let (out, start, count, cat) := acc
  if c.isDigit then (out, start, count * 10 + (c.toNat - 48), cat)
  else (if count = 0 then out else out.push (start, cat), start + count, 0, Category.ofLetter c)

/-- The first code point of every run, with the run's category. -/
def categoryTable : Array (Nat × Category) :=
  let (out, start, _, cat) :=
    CharTable.categoryRuns.foldl readRun (#[], 0, 0, .unassigned)
  out.push (start, cat)

/-- The last entry that starts at or before `n`, by halving the range `[lo, hi)`. -/
private def lookupRun (table : Array (Nat × Category)) (n : Nat) :
    Nat → Nat → Nat → Nat × Category
  | 0, lo, _ => table.getD lo (0, .unassigned)
  | fuel + 1, lo, hi =>
    if hi ≤ lo + 1 then table.getD lo (0, .unassigned)
    else
      let mid := (lo + hi) / 2
      if (table.getD mid (0, .unassigned)).1 ≤ n then lookupRun table n fuel mid hi
      else lookupRun table n fuel lo mid

/-- The run that a character belongs to. -/
def runOf (c : Char) : Nat × Category :=
  lookupRun categoryTable c.toNat 20 0 categoryTable.size

/-- The general category of a character. -/
def category (c : Char) : Category := (runOf c).2

private def hexValue (s : List Char) : Nat :=
  s.foldl (fun n c =>
    n * 16 + (if c.isDigit then c.toNat - 48 else c.toNat - 87)) 0

/-- Cuts a list of characters at every occurrence of one. -/
def splitChars (sep : Char) (s : List Char) : List (List Char) :=
  s.foldr (fun c acc =>
    if c = sep then [] :: acc
    else match acc with
      | [] => [[c]]
      | w :: r => (c :: w) :: r) [[]]

private def rangesOf (s : String) : List (Nat × Nat) :=
  (splitChars ' ' s.toList).filterMap fun w =>
    match splitChars '-' w with
    | [a] => if a.isEmpty then none else some (hexValue a, hexValue a)
    | [a, b] => some (hexValue a, hexValue b)
    | _ => none

private def decValue (s : List Char) : Int :=
  match s with
  | '-' :: r => - Int.ofNat (r.foldl (fun n c => n * 10 + (c.toNat - 48)) 0)
  | r => Int.ofNat (r.foldl (fun n c => n * 10 + (c.toNat - 48)) 0)

/-- A case mapping: runs of single images, and the characters with longer ones. -/
structure CaseMap where
  runs : Array (Nat × Nat × Nat × Int)
  words : List (Nat × List Char)

private def caseMapOf (runs words : String) : CaseMap where
  runs := ((splitChars ' ' runs.toList).filterMap fun w =>
    match splitChars ',' w with
    | [a, s, n, d] => some (hexValue a, (decValue s).toNat, (decValue n).toNat, decValue d)
    | _ => none).toArray
  words := (splitChars ' ' words.toList).filterMap fun w =>
    match splitChars ':' w with
    | [a, t] => some (hexValue a, (splitChars '+' t).map fun x => Char.ofNat (hexValue x))
    | _ => none

/-- The image of a character, one or more characters. -/
def CaseMap.apply (m : CaseMap) (c : Char) : List Char :=
  let n := c.toNat
  match m.runs.find? (fun (a, s, k, _) => a ≤ n && n ≤ a + s * (k - 1) && (n - a) % s == 0) with
  | some (_, _, _, d) => [Char.ofNat (Int.ofNat n + d).toNat]
  | none =>
    match m.words.find? (·.1 == n) with
    | some (_, w) => w
    | none => [c]

def upperMap : CaseMap := caseMapOf CharTable.upperRuns CharTable.upperWords
def lowerMap : CaseMap := caseMapOf CharTable.lowerRuns CharTable.lowerWords
def titleMap : CaseMap := caseMapOf CharTable.titleRuns CharTable.titleWords
def foldMap : CaseMap := caseMapOf CharTable.foldRuns CharTable.foldWords

private def extraDigits := rangesOf CharTable.extraDigits
private def extraNumerals := rangesOf CharTable.extraNumerals
private def extraLower := rangesOf CharTable.extraLower
private def extraUpper := rangesOf CharTable.extraUpper
private def extraNameStart := rangesOf CharTable.extraNameStart
private def excludedNameStart := rangesOf CharTable.excludedNameStart
private def extraNamePart := rangesOf CharTable.extraNamePart
private def excludedNamePart := rangesOf CharTable.excludedNamePart

private def inRanges (rs : List (Nat × Nat)) (c : Char) : Bool :=
  rs.any fun (a, b) => a ≤ c.toNat && c.toNat ≤ b

/-! ## Classes -/

/-- Blank characters: what trimming removes and splitting without a separator splits at. -/
def isBlank (c : Char) : Bool :=
  let n := c.toNat
  (9 ≤ n && n ≤ 13) || (28 ≤ n && n ≤ 32) || n == 0x85 || n == 0xa0 || n == 0x1680 ||
  (0x2000 ≤ n && n ≤ 0x200a) || n == 0x2028 || n == 0x2029 || n == 0x202f || n == 0x205f ||
  n == 0x3000

/-- Blank characters within ASCII. -/
def isAsciiBlank (c : Char) : Bool :=
  let n := c.toNat
  (9 ≤ n && n ≤ 13) || n == 32

/-- Characters that end a line of text. -/
def isLineEnd (c : Char) : Bool :=
  let n := c.toNat
  (10 ≤ n && n ≤ 13) || (28 ≤ n && n ≤ 30) || n == 0x85 || n == 0x2028 || n == 0x2029

def isLetter (c : Char) : Bool :=
  if c.toNat < 128 then c.isAlpha else (category c).isLetter

def isDecimal (c : Char) : Bool :=
  if c.toNat < 128 then c.isDigit else category c == .decimalNumber

/-- Decimal digits and the characters that show a digit in another form. -/
def isDigitLike (c : Char) : Bool :=
  isDecimal c || (c.toNat ≥ 128 && inRanges extraDigits c)

def isNumeral (c : Char) : Bool :=
  if c.toNat < 128 then c.isDigit
  else match category c with
    | .decimalNumber | .letterNumber | .otherNumber => true
    | _ => inRanges extraNumerals c || inRanges extraDigits c

/-- The value of a decimal digit of any script. -/
def decimalValue? (c : Char) : Option Nat :=
  if c.isDigit then some (c.toNat - 48)
  else if c.toNat < 128 then none
  else
    let (start, cat) := runOf c
    if cat == .decimalNumber then some ((c.toNat - start) % 10) else none

def isWordChar (c : Char) : Bool := isLetter c || isNumeral c || c == '_'

def isLower (c : Char) : Bool :=
  if c.toNat < 128 then c.isLower else category c == .lowerLetter || inRanges extraLower c

def isUpper (c : Char) : Bool :=
  if c.toNat < 128 then c.isUpper else category c == .upperLetter || inRanges extraUpper c

def isTitle (c : Char) : Bool := category c == .titleLetter

/-- Characters that have a case. -/
def isCased (c : Char) : Bool := isLower c || isUpper c || isTitle c

/-- Characters that the final form of sigma looks past. -/
def isCaseIgnorable (c : Char) : Bool :=
  match category c with
  | .mark | .enclosingMark | .format | .modifierLetter | .modifierSymbol => true
  | _ => c == '\'' || c == '.' || c == ':' || c.toNat == 0xb7 || c.toNat == 0x2019

/-- Characters shown as themselves when a value is displayed. -/
def isPrintable (c : Char) : Bool :=
  if c.toNat < 127 then 32 ≤ c.toNat else !(category c).isHidden

def isNameStart (c : Char) : Bool :=
  if c.toNat < 128 then c.isAlpha || c == '_'
  else
    let cat := category c
    (cat.isLetter || cat == .letterNumber || inRanges extraNameStart c) &&
      !inRanges excludedNameStart c

def isNamePart (c : Char) : Bool :=
  if c.toNat < 128 then c.isAlphanum || c == '_'
  else
    let cat := category c
    (cat.isLetter || cat == .letterNumber || cat == .mark || cat == .spacingMark ||
      cat == .decimalNumber || cat == .connector || inRanges extraNamePart c) &&
      !inRanges excludedNamePart c

/-! ## Case of single characters -/

def upperOf (c : Char) : List Char :=
  if c.toNat < 128 then [c.toUpper] else upperMap.apply c

def lowerOf (c : Char) : List Char :=
  if c.toNat < 128 then [c.toLower] else lowerMap.apply c

def titleOf (c : Char) : List Char :=
  if c.toNat < 128 then [c.toUpper] else titleMap.apply c

def foldOf (c : Char) : List Char :=
  if c.toNat < 128 then [c.toLower] else foldMap.apply c

end Stepwise.Text
