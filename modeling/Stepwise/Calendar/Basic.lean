/-!
# Dates and times

Days of the proleptic calendar, times of day to the microsecond, and spans between them. Days
are numbered from 1 January of year 1, which is day 1; the numbering turns every question about
distance and order into one about whole numbers.
-/

namespace Stepwise.Calendar

structure Date where
  year : Nat
  month : Nat
  day : Nat
  deriving DecidableEq, Inhabited

structure Time where
  hour : Nat
  minute : Nat
  second : Nat
  micro : Nat
  deriving DecidableEq, Inhabited

/-- A distance from Greenwich in seconds. -/
abbrev Offset := Int

structure DateTime where
  date : Date
  time : Time
  offset : Option Offset
  deriving DecidableEq, Inhabited

/-- A span in microseconds. -/
structure Span where
  micros : Int
  deriving DecidableEq, Inhabited

def isLeap (y : Nat) : Bool := y % 4 == 0 && (y % 100 != 0 || y % 400 == 0)

def daysInMonth (y m : Nat) : Nat :=
  match m with
  | 2 => if isLeap y then 29 else 28
  | 4 | 6 | 9 | 11 => 30
  | _ => 31

/-- Why a date or a time does not exist. -/
inductive Fault where
  | year (y : Int) | month | day | hour | minute | second | micro
  deriving DecidableEq

def Fault.message : Fault → String
  | .year y => "year " ++ toString y ++ " is out of range"
  | .month => "month must be in 1..12"
  | .day => "day is out of range for month"
  | .hour => "hour must be in 0..23"
  | .minute => "minute must be in 0..59"
  | .second => "second must be in 0..59"
  | .micro => "microsecond must be in 0..999999"

/-- A date, if the day exists. -/
def Date.make (y m d : Int) : Except Fault Date :=
  if y < 1 || y > 9999 then .error (.year y)
  else if m < 1 || m > 12 then .error .month
  else if d < 1 || d > daysInMonth y.toNat m.toNat then .error .day
  else .ok ⟨y.toNat, m.toNat, d.toNat⟩

/-- A time of day, if it exists. -/
def Time.make (h m s u : Int) : Except Fault Time :=
  if h < 0 || h > 23 then .error .hour
  else if m < 0 || m > 59 then .error .minute
  else if s < 0 || s > 59 then .error .second
  else if u < 0 || u > 999999 then .error .micro
  else .ok ⟨h.toNat, m.toNat, s.toNat, u.toNat⟩

/-- Days before 1 January of a year. -/
def daysBeforeYear (y : Nat) : Nat :=
  let p := y - 1
  p * 365 + p / 4 - p / 100 + p / 400

def daysBeforeMonth (y m : Nat) : Nat :=
  (List.range (m - 1)).foldl (fun n k => n + daysInMonth y (k + 1)) 0

/-- The number of a day; 1 January of year 1 has number 1. -/
def Date.number (d : Date) : Nat := daysBeforeYear d.year + daysBeforeMonth d.year d.month + d.day

private def monthOf (y : Nat) : Nat → Nat → Nat → Nat × Nat
  | 0, m, r => (m, r)
  | fuel + 1, m, r =>
    if r > daysInMonth y m && m < 12 then monthOf y fuel (m + 1) (r - daysInMonth y m) else (m, r)

/-- The day with a number. -/
def Date.ofNumber (n : Nat) : Date :=
  let y0 := n * 400 / 146097 + 1
  let y := if daysBeforeYear (y0 + 1) < n then y0 + 1
    else if n ≤ daysBeforeYear y0 then y0 - 1 else y0
  let (m, d) := monthOf y 12 1 (n - daysBeforeYear y)
  ⟨y, m, d⟩

/-- Monday is 0. -/
def Date.weekday (d : Date) : Nat := (d.number + 6) % 7

def Time.seconds (t : Time) : Nat := t.hour * 3600 + t.minute * 60 + t.second
def Time.micros (t : Time) : Nat := t.seconds * 1000000 + t.micro

def Time.ofMicros (n : Nat) : Time :=
  ⟨n / 3600000000 % 24, n / 60000000 % 60, n / 1000000 % 60, n % 1000000⟩

/-- Microseconds since midnight of day 0, by the clock shown. -/
def DateTime.micros (t : DateTime) : Int :=
  Int.ofNat t.date.number * 86400000000 + Int.ofNat t.time.micros

/-- The moment, as microseconds by the clock of Greenwich. -/
def DateTime.moment (t : DateTime) : Int := t.micros - t.offset.getD 0 * 1000000

/-- The date and time so many microseconds after midnight of day 0, if there is one. -/
def DateTime.ofMicros? (n : Int) (offset : Option Offset) : Option DateTime :=
  let day := n.fdiv 86400000000
  if day < 1 || day > 3652059 then none
  else some ⟨Date.ofNumber day.toNat, Time.ofMicros (n.fmod 86400000000).toNat, offset⟩

def Date.plusDays? (d : Date) (n : Int) : Option Date :=
  let k := Int.ofNat d.number + n
  if k < 1 || k > 3652059 then none else some (Date.ofNumber k.toNat)

/-! ## Written forms -/

def pad (width n : Nat) : String :=
  let t := toString n
  String.ofList (List.replicate (width - t.length) '0') ++ t

def Date.show (d : Date) : String := pad 4 d.year ++ "-" ++ pad 2 d.month ++ "-" ++ pad 2 d.day

def Time.show (t : Time) : String :=
  pad 2 t.hour ++ ":" ++ pad 2 t.minute ++ ":" ++ pad 2 t.second ++
    (if t.micro = 0 then "" else "." ++ pad 6 t.micro)

/-- `+01:00`, with seconds only if there are some. -/
def showOffset (o : Offset) : String :=
  let a := o.natAbs
  (if o < 0 then "-" else "+") ++ pad 2 (a / 3600) ++ ":" ++ pad 2 (a / 60 % 60) ++
    (if a % 60 = 0 then "" else ":" ++ pad 2 (a % 60))

def DateTime.show (t : DateTime) (between : String) : String :=
  t.date.show ++ between ++ t.time.show ++ (t.offset.map showOffset).getD ""

def Span.days (s : Span) : Int := s.micros.fdiv 86400000000
def Span.seconds (s : Span) : Int := (s.micros.fmod 86400000000).fdiv 1000000
def Span.micro (s : Span) : Int := s.micros.fmod 1000000

/-- `1 day, 2:03:04`. -/
def Span.show (s : Span) : String :=
  let d := s.days
  let sec := s.seconds.toNat
  (if d = 0 then "" else toString d ++ (if d.natAbs = 1 then " day, " else " days, ")) ++
    toString (sec / 3600) ++ ":" ++ pad 2 (sec / 60 % 60) ++ ":" ++ pad 2 (sec % 60) ++
    (if s.micro = 0 then "" else "." ++ pad 6 s.micro.toNat)

def weekdayNames : List String :=
  ["Monday", "Tuesday", "Wednesday", "Thursday", "Friday", "Saturday", "Sunday"]

def monthNames : List String :=
  ["January", "February", "March", "April", "May", "June", "July", "August", "September",
    "October", "November", "December"]

/-- Day of the year, from 1. -/
def Date.dayOfYear (d : Date) : Nat := daysBeforeMonth d.year d.month + d.day

/-- The number, Monday is 1, of the weekday of a date within its week of the year, and the year
that the week belongs to: the first week is the one with the first Thursday. -/
def Date.week (d : Date) : Nat × Nat × Nat :=
  let firstMonday (y : Nat) : Int :=
    let first : Date := ⟨y, 1, 1⟩
    let w := first.weekday
    Int.ofNat first.number - Int.ofNat w + (if w > 3 then 7 else 0)
  let n := Int.ofNat d.number
  let y := if n ≥ firstMonday (d.year + 1) then d.year + 1
    else if n < firstMonday d.year then d.year - 1 else d.year
  (y, ((n - firstMonday y) / 7).toNat + 1, d.weekday + 1)

/-- One directive of a format of dates. -/
def formatDirective (t : DateTime) : Char → Option String
  | 'Y' => some (toString t.date.year)
  | 'm' => some (pad 2 t.date.month)
  | 'd' => some (pad 2 t.date.day)
  | 'H' => some (pad 2 t.time.hour)
  | 'M' => some (pad 2 t.time.minute)
  | 'S' => some (pad 2 t.time.second)
  | 'f' => some (pad 6 t.time.micro)
  | 'y' => some (pad 2 (t.date.year % 100))
  | 'j' => some (pad 3 t.date.dayOfYear)
  | 'I' => some (pad 2 ((t.time.hour + 11) % 12 + 1))
  | 'p' => some (if t.time.hour < 12 then "AM" else "PM")
  | 'A' => some (weekdayNames.getD t.date.weekday "")
  | 'a' => some (String.ofList ((weekdayNames.getD t.date.weekday "").toList.take 3))
  | 'B' => some (monthNames.getD (t.date.month - 1) "")
  | 'b' => some (String.ofList ((monthNames.getD (t.date.month - 1) "").toList.take 3))
  | 'w' => some (toString ((t.date.weekday + 1) % 7))
  | 'u' => some (toString (t.date.weekday + 1))
  | 'G' => some (toString t.date.week.1)
  | 'V' => some (pad 2 t.date.week.2.1)
  | 'U' => some (pad 2 ((t.date.dayOfYear + 6 - (t.date.weekday + 1) % 7) / 7))
  | 'W' => some (pad 2 ((t.date.dayOfYear + 6 - t.date.weekday) / 7))
  | 'F' => some t.date.show
  | 'T' => some (pad 2 t.time.hour ++ ":" ++ pad 2 t.time.minute ++ ":" ++ pad 2 t.time.second)
  | 'R' => some (pad 2 t.time.hour ++ ":" ++ pad 2 t.time.minute)
  | 'D' => some (pad 2 t.date.month ++ "/" ++ pad 2 t.date.day ++ "/" ++ pad 2 (t.date.year % 100))
  | 'x' => some (pad 2 t.date.month ++ "/" ++ pad 2 t.date.day ++ "/" ++ pad 2 (t.date.year % 100))
  | 'X' => some (pad 2 t.time.hour ++ ":" ++ pad 2 t.time.minute ++ ":" ++ pad 2 t.time.second)
  | 'c' => some (String.ofList ((weekdayNames.getD t.date.weekday "").toList.take 3) ++ " " ++
      String.ofList ((monthNames.getD (t.date.month - 1) "").toList.take 3) ++ " " ++
      (if t.date.day < 10 then " " else "") ++ toString t.date.day ++ " " ++
      pad 2 t.time.hour ++ ":" ++ pad 2 t.time.minute ++ ":" ++ pad 2 t.time.second ++ " " ++
      toString t.date.year)
  | 'z' => some ((t.offset.map fun o => String.ofList ((showOffset o).toList.filter (· != ':'))).getD "")
  | 'Z' => some ((t.offset.map fun o => if o = 0 then "UTC" else "UTC" ++ showOffset o).getD "")
  | '%' => some "%"
  | _ => none

/-- A date and time written by a format with `%` directives. -/
def DateTime.format (t : DateTime) : List Char → String
  | '%' :: c :: rest =>
    (match formatDirective t c with
      | some s => s
      | none => String.ofList ['%', c]) ++ t.format rest
  | c :: rest => String.ofList [c] ++ t.format rest
  | [] => ""

end Stepwise.Calendar
