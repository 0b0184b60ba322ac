import Stepwise.Calendar.Basic
import Stepwise.Text.Cut
import Stepwise.Number.Read
/-!
# Reading dates and times

Texts in the international format, and texts in a format with `%` directives.
-/

namespace Stepwise.Calendar

/-- Why a text cannot be read as a date or a time. -/
inductive ReadFault where
  | shape
  /-- It has the right shape, but there is no such day or time. -/
  | range (f : Fault)
  deriving DecidableEq

private def digits? (n : Nat) (s : List Char) : Option (Nat × List Char) :=
  let ds := s.take n
  if ds.length = n && ds.all Char.isDigit then
    some (Number.valueOfDigits 10 (ds.filterMap Number.digitValue?), s.drop n)
  else none

private def make {α : Type} (r : Except Fault α) : Except ReadFault α :=
  match r with
  | .ok a => .ok a
  | .error f => .error (.range f)

/-- The date of a day in a week of a year. -/
def Date.ofWeek (year week day : Nat) : Except ReadFault Date :=
  if week < 1 || week > 53 || day < 1 || day > 7 || year < 1 then .error .shape
  else
    let first : Date := ⟨year, 1, 1⟩
    let w := first.weekday
    let monday := Int.ofNat first.number - Int.ofNat w + (if w > 3 then 7 else 0)
    let n := monday + Int.ofNat ((week - 1) * 7 + (day - 1))
    let d := Date.ofNumber n.toNat
    if week = 53 && d.week.1 ≠ year then .error .shape else .ok d

/-- Reads a date and what follows it. -/
def readDate (s : List Char) : Except ReadFault (Date × List Char) := do
  let some (y, s) := digits? 4 s | throw .shape
  let (dashed, s) := match s with
    | '-' :: r => (true, r)
    | s => (false, s)
  match s with
  | 'W' :: r =>
    let some (w, r) := digits? 2 r | throw .shape
    match r with
    | '-' :: r' =>
      if dashed then
        match digits? 1 r' with
        | some (d, r'') => return (← Date.ofWeek y w d, r'')
        | none => throw .shape
      else return (← Date.ofWeek y w 1, r)
    | r =>
      match if dashed then none else digits? 1 r with
      | some (d, r') => return (← Date.ofWeek y w d, r')
      | none => return (← Date.ofWeek y w 1, r)
  | s =>
    let some (m, s) := digits? 2 s | throw .shape
    let s ← match dashed, s with
      | true, '-' :: r => pure r
      | true, _ => throw .shape
      | false, s => pure s
    let some (d, s) := digits? 2 s | throw .shape
    return (← make (Date.make y m d), s)

/-- Hours, minutes, seconds and a fraction; the later ones may be missing. -/
private def clock (s : List Char) : Except ReadFault (Nat × Nat × Nat × Nat) := do
  let fraction (s : List Char) : Except ReadFault Nat := do
    match s with
    | [] => return 0
    | c :: ds =>
      if (c == '.' || c == ',') && !ds.isEmpty && ds.all Char.isDigit then
        let ds := (ds.take 6).filterMap Number.digitValue?
        return Number.valueOfDigits 10 (ds ++ List.replicate (6 - ds.length) 0)
      else throw .shape
  let some (h, s) := digits? 2 s | throw .shape
  let (colons, s) := match s with
    | ':' :: r => (true, r)
    | s => (false, s)
  if s.isEmpty then
    if colons then throw .shape else return (h, 0, 0, 0)
  let some (m, s) := digits? 2 s | throw .shape
  if s.isEmpty then return (h, m, 0, 0)
  let s ← match colons, s with
    | true, ':' :: r => pure r
    | true, _ => throw .shape
    | false, s => pure s
  let some (sec, s) := digits? 2 s | throw .shape
  return (h, m, sec, ← fraction s)

/-- Reads a time of day, perhaps with an offset. -/
def readTime (s : List Char) : Except ReadFault (Time × Option Offset) := do
  let isSign (c : Char) : Bool := c == '+' || c == '-' || c == 'Z'
  let body := s.takeWhile (!isSign ·)
  let zone := s.drop body.length
  let (h, m, sec, u) ← clock body
  let t ← make (Time.make h m sec u)
  match zone with
  | [] => return (t, none)
  | ['Z'] => return (t, some 0)
  | 'Z' :: _ => throw .shape
  | sign :: r =>
    let (h, m, sec, _) ← clock r
    let o := Int.ofNat (h * 3600 + m * 60 + sec)
    return (t, some (if sign == '-' then -o else o))

/-- Reads a date alone. -/
def readDateOnly (s : List Char) : Except ReadFault Date := do
  let (d, rest) ← readDate s
  if rest.isEmpty then return d else throw .shape

/-- Reads a date and perhaps a time, with any character between them. -/
def readDateTime (s : List Char) : Except ReadFault DateTime := do
  let (d, rest) ← readDate s
  match rest with
  | [] => return ⟨d, ⟨0, 0, 0, 0⟩, none⟩
  | [_] => throw .shape
  | _ :: r =>
    let (t, o) ← readTime r
    return ⟨d, t, o⟩

/-! ## Formats -/

/-- What has been read by a format. -/
structure Fields where
  year : Option Nat := none
  month : Nat := 1
  day : Nat := 1
  hour : Nat := 0
  hour12 : Option Nat := none
  afternoon : Option Bool := none
  minute : Nat := 0
  second : Nat := 0
  micro : Nat := 0
  offset : Option Offset := none
  dayOfYear : Option Nat := none
  deriving Inhabited

/-- Why a text does not fit a format. -/
inductive FormatFault where
  | badDirective (c : Char)
  | stray
  | noMatch
  | remains (rest : List Char)
  | range (f : Fault)
  deriving DecidableEq

/-- A number of at most `n` digits within bounds; fewer digits if more would be too large. -/
private def upTo (n lo hi : Nat) (s : List Char) : Option (Nat × List Char) :=
  (List.range n).reverse.findSome? fun k =>
    match digits? (k + 1) s with
    | some (v, r) => if lo ≤ v && v ≤ hi then some (v, r) else none
    | none => none

private def oneOf (names : List String) (s : List Char) : Option (Nat × List Char) :=
  let low (cs : List Char) : List Char := cs.map Char.toLower
  let found := names.zipIdx.filter fun (n, _) => Text.startsWith (low n.toList) (low s)
  match found.mergeSort fun a b => a.1.length ≥ b.1.length with
  | (n, i) :: _ => some (i, s.drop n.length)
  | [] => none

private def short (names : List String) : List String := names.map fun n => String.ofList (n.toList.take 3)

private def offsetField (s : List Char) : Option (Offset × List Char) :=
  match s with
  | 'Z' :: r => some (0, r)
  | c :: r =>
    if c == '+' || c == '-' then do
      let (h, r) ← digits? 2 r
      let r := match r with
        | ':' :: r => r
        | r => r
      let (m, r) ← digits? 2 r
      let o := Int.ofNat (h * 3600 + m * 60)
      return (if c == '-' then -o else o, r)
    else none
  | [] => none

/-- Reads what one directive stands for. -/
private def directive (c : Char) (f : Fields) (s : List Char) : Option (Option (Fields × List Char)) :=
  match c with
  | 'Y' => some ((digits? 4 s).map fun (v, r) => ({ f with year := some v }, r))
  | 'y' => some ((digits? 2 s).map fun (v, r) => ({ f with year := some (if v ≤ 68 then 2000 + v else 1900 + v) }, r))
  | 'm' => some ((upTo 2 1 12 s).map fun (v, r) => ({ f with month := v }, r))
  | 'd' => some ((upTo 2 1 31 s).map fun (v, r) => ({ f with day := v }, r))
  | 'H' => some ((upTo 2 0 23 s).map fun (v, r) => ({ f with hour := v }, r))
  | 'I' => some ((upTo 2 1 12 s).map fun (v, r) => ({ f with hour12 := some v }, r))
  | 'M' => some ((upTo 2 0 59 s).map fun (v, r) => ({ f with minute := v }, r))
  | 'S' => some ((upTo 2 0 61 s).map fun (v, r) => ({ f with second := v }, r))
  | 'j' => some ((upTo 3 1 366 s).map fun (v, r) => ({ f with dayOfYear := some v }, r))
  | 'f' =>
    let ds := (s.takeWhile Char.isDigit).take 6
    if ds.isEmpty then some none
    else
      let vs := ds.filterMap Number.digitValue?
      some (some ({ f with micro := Number.valueOfDigits 10 (vs ++ List.replicate (6 - vs.length) 0) },
        s.drop ds.length))
  | 'p' => some ((oneOf ["AM", "PM"] s).map fun (i, r) => ({ f with afternoon := some (i == 1) }, r))
  | 'B' => some ((oneOf monthNames s).map fun (i, r) => ({ f with month := i + 1 }, r))
  | 'b' => some ((oneOf (short monthNames) s).map fun (i, r) => ({ f with month := i + 1 }, r))
  | 'A' => some ((oneOf weekdayNames s).map fun (_, r) => (f, r))
  | 'a' => some ((oneOf (short weekdayNames) s).map fun (_, r) => (f, r))
  | 'w' | 'u' => some ((digits? 1 s).map fun (_, r) => (f, r))
  | 'z' => some ((offsetField s).map fun (o, r) => ({ f with offset := some o }, r))
  | 'Z' => some ((oneOf ["UTC", "GMT"] s).map fun (_, r) => (f, r))
  | '%' => some (match s with
      | '%' :: r => some (f, r)
      | _ => none)
  | _ => none

private def readFields : List Char → Fields → List Char → Except FormatFault Fields
  | [], f, [] => .ok f
  | [], _, rest => .error (.remains rest)
  | '%' :: c :: fmt, f, s =>
    match directive c f s with
    | none => .error (.badDirective c)
    | some none => .error .noMatch
    | some (some (f, r)) => readFields fmt f r
  | ['%'], _, _ => .error .stray
  | c :: fmt, f, s =>
    if Text.isAsciiBlank c then
      match s with
      | d :: _ => if Text.isAsciiBlank d then readFields fmt f (s.dropWhile Text.isAsciiBlank) else .error .noMatch
      | [] => .error .noMatch
    else match s with
      | d :: r => if c.toLower == d.toLower then readFields fmt f r else .error .noMatch
      | [] => .error .noMatch

/-- The first directive of a format that there is not. -/
private def badDirective? : List Char → Option FormatFault
  | '%' :: c :: fmt =>
    if (directive c {} []).isNone then some (.badDirective c) else badDirective? fmt
  | ['%'] => some .stray
  | _ :: fmt => badDirective? fmt
  | [] => none

/-- Reads a text by a format. -/
def DateTime.ofFormat (format s : List Char) : Except FormatFault DateTime := do
  match badDirective? format with
  | some f => throw f
  | none => pure ()
  let f ← readFields format {} s
  let hour := match f.hour12, f.afternoon with
    | some h, some true => if h = 12 then 12 else h + 12
    | some h, _ => if h = 12 then 0 else h
    | none, _ => f.hour
  let d ← match Date.make (f.year.getD 1900) f.month f.day with
    | .ok d => pure d
    | .error e => throw (.range e)
  let d := match f.dayOfYear with
    | some n => Date.ofNumber (daysBeforeYear d.year + n)
    | none => d
  let t ← match Time.make hour f.minute f.second f.micro with
    | .ok t => pure t
    | .error e => throw (.range e)
  return ⟨d, t, f.offset⟩

end Stepwise.Calendar
