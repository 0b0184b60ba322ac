import Stepwise.Document.Token
/-!
# The kinds of plain scalars

A plain scalar is a text unless its form says otherwise: numbers, truth values, dates and a few
words have forms of their own. Tags name the kinds.
-/

namespace Stepwise.Document

def tagStart : String := "tag:yaml.org,2002:"

/-- The full tag of a kind of node. -/
def tagOf (kind : String) : String := tagStart ++ kind

def isDigitOr (extra : List Char) (c : Char) : Bool := c.isDigit || extra.contains c

def dropSign : List Char → List Char
  | '+' :: r | '-' :: r => r
  | s => s

def isSexagesimalTail : Nat → List Char → Bool
  -- `(:[0-5]?[0-9])+`
  | 0, _ => false
  | fuel + 1, ':' :: r =>
    let tail (rest : List Char) : Bool := rest.isEmpty || isSexagesimalTail fuel rest
    match r with
    | a :: b :: rest =>
      if '0' ≤ a && a ≤ '5' && b.isDigit then tail rest
      else if a.isDigit then tail (b :: rest) else false
    | [a] => a.isDigit
    | [] => false
  | _, _ => false

/-- The forms of whole numbers: binary, octal, decimal, hexadecimal and base sixty. -/
def isIntForm (s : List Char) : Bool :=
  match dropSign s with
  | ['0'] => true
  | '0' :: 'b' :: r => !r.isEmpty && r.all fun c => c = '0' || c = '1' || c = '_'
  | '0' :: 'x' :: r => !r.isEmpty && r.all fun c => (hexDigit? c).isSome || c = '_'
  | '0' :: r => !r.isEmpty && r.all fun c => ('0' ≤ c && c ≤ '7') || c = '_'
  | c :: r =>
    if '1' ≤ c && c ≤ '9' then
      let rest := r.dropWhile (isDigitOr ['_'])
      rest.isEmpty || isSexagesimalTail (rest.length + 1) rest
    else false
  | [] => false

/-- `e+10`, or nothing; the sign is needed. -/
def isExponentOrEnd : List Char → Bool
  | [] => true
  | e :: sign :: r =>
    (e = 'e' || e = 'E') && (sign = '+' || sign = '-') && !r.isEmpty && r.all Char.isDigit
  | _ => false

/-- Base sixty before a point: `(:[0-5]?[0-9])+\.[0-9_]*`. -/
def isSexagesimalPoint (s : List Char) : Bool :=
  let head := s.takeWhile (· ≠ '.')
  match s.dropWhile (· ≠ '.') with
  | '.' :: r => isSexagesimalTail (head.length + 1) head && r.all (isDigitOr ['_'])
  | _ => false

/-- The forms of numbers with a point. -/
def isFloatForm (s : List Char) : Bool :=
  let t := dropSign s
  let words (w : List String) (x : List Char) : Bool := w.contains (String.ofList x)
  words [".inf", ".Inf", ".INF"] t || words [".nan", ".NaN", ".NAN"] s ||
  (match t with
  | c :: r =>
    c.isDigit &&
      (let rest := r.dropWhile (isDigitOr ['_'])
      (match rest with
        | '.' :: r' => isExponentOrEnd (r'.dropWhile (isDigitOr ['_']))
        | _ => false) || isSexagesimalPoint rest)
  | [] => false) ||
  (match s with
  | '.' :: c :: r => c.isDigit && isExponentOrEnd (r.dropWhile (isDigitOr ['_']))
  | _ => false)

/-- The parts of a date, perhaps with a time and a distance from Greenwich. -/
structure Moment where
  year : Nat
  month : Nat
  day : Nat
  time : Option (Nat × Nat × Nat)
  fraction : List Char
  /-- `Z`, or a sign with hours and minutes. -/
  zone : Option (Option (Bool × Nat × Nat))
  deriving DecidableEq

def number (ds : List Char) : Nat := ds.foldl (fun n c => n * 10 + (c.toNat - 48)) 0

/-- Reads between `least` and `most` digits. -/
def digitsOf (least most : Nat) (s : List Char) : Option (Nat × List Char) :=
  let ds := (s.take most).takeWhile Char.isDigit
  if ds.length < least then none else some (number ds, s.drop ds.length)

def afterChar (c : Char) : List Char → Option (List Char)
  | d :: r => if c = d then some r else none
  | [] => none

def zoneOf (s : List Char) : Option (Option (Option (Bool × Nat × Nat))) :=
  match s.dropWhile (fun c => c = ' ' || c = '\t') with
  | [] => if s.isEmpty then some none else none
  | ['Z'] => some (some none)
  | sign :: r =>
    if sign = '+' || sign = '-' then
      match digitsOf 1 2 r with
      | some (h, []) => some (some (some (sign = '-', h, 0)))
      | some (h, ':' :: r) =>
        match digitsOf 2 2 r with
        | some (m, []) => some (some (some (sign = '-', h, m)))
        | _ => none
      | _ => none
    else none

def clockOf (s : List Char) : Option ((Nat × Nat × Nat) × List Char × Option (Option (Bool × Nat × Nat))) := do
  let (h, s) ← digitsOf 1 2 s
  let s ← afterChar ':' s
  let (m, s) ← digitsOf 2 2 s
  let s ← afterChar ':' s
  let (sec, s) ← digitsOf 2 2 s
  let (fraction, s) := match s with
    | '.' :: r => (r.takeWhile Char.isDigit, r.dropWhile Char.isDigit)
    | s => ([], s)
  let z ← zoneOf s
  return ((h, m, sec), fraction, z)

/-- The parts of a date or a date with a time, in the loose form that an explicit tag allows. -/
def momentOf? (s : List Char) : Option Moment := do
  let (y, s) ← digitsOf 4 4 s
  let s ← afterChar '-' s
  let (m, s) ← digitsOf 1 2 s
  let s ← afterChar '-' s
  let (d, s) ← digitsOf 1 2 s
  match s with
  | [] => return ⟨y, m, d, none, [], none⟩
  | c :: r =>
    let blank (c : Char) : Bool := c = ' ' || c = '\t'
    let rest ← if c = 'T' || c = 't' then some r
      else if blank c then some (r.dropWhile blank) else none
    let (time, fraction, zone) ← clockOf rest
    return ⟨y, m, d, some time, fraction, zone⟩

/-- The forms of dates: a day alone has two digits for month and day. -/
def isMomentForm (s : List Char) : Bool :=
  match momentOf? s with
  | none => false
  | some t => t.time.isSome || s.length = 10

def boolWords : List String :=
  ["yes", "Yes", "YES", "no", "No", "NO", "true", "True", "TRUE", "false", "False", "FALSE",
    "on", "On", "ON", "off", "Off", "OFF"]

def nullWords : List String := ["~", "null", "Null", "NULL", ""]

/-- The tag of a plain scalar, by its form. -/
def plainTag (text : String) : String :=
  let s := text.toList
  if boolWords.contains text then tagOf "bool"
  else if isFloatForm s then tagOf "float"
  else if isIntForm s then tagOf "int"
  else if text = "<<" then tagOf "merge"
  else if nullWords.contains text then tagOf "null"
  else if isMomentForm s then tagOf "timestamp"
  else if text = "=" then tagOf "value"
  else if text = "!" || text = "&" || text = "*" then tagOf "yaml"
  else tagOf "str"

end Stepwise.Document
