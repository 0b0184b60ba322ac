import Stepwise.Calendar.Read
import Stepwise.Library.Arguments
import Stepwise.Run.Arithmetic
/-!
# Dates, times and spans

Making dates, times of day, spans and zones, their fields and their methods.
-/

namespace Stepwise.Moments

open Calendar

def dateMethods : List String :=
  ["ctime", "fromisocalendar", "fromisoformat", "fromordinal", "fromtimestamp", "isocalendar", "isoformat",
   "isoweekday", "replace", "strftime", "timetuple", "today", "toordinal", "weekday"]

def datetimeMethods : List String :=
  dateMethods ++ ["astimezone", "combine", "date", "dst", "now", "strptime", "time", "timestamp", "timetz",
    "tzname", "utcfromtimestamp", "utcnow", "utcoffset"]

def timeMethods : List String :=
  ["dst", "fromisoformat", "isoformat", "replace", "strftime", "tzname", "utcoffset"]

def spanMethods : List String := ["total_seconds"]

def zoneMethods : List String := ["dst", "fromutc", "tzname", "utcoffset"]

/-- The methods that belong to a class rather than to its members. -/
def classMethods (cls : String) : List String :=
  match cls with
  | "datetime.date" => ["fromisocalendar", "fromisoformat", "fromordinal", "fromtimestamp", "today"]
  | "datetime.datetime" =>
    ["combine", "fromisocalendar", "fromisoformat", "fromordinal", "fromtimestamp", "now", "strptime", "today",
     "utcfromtimestamp", "utcnow"]
  | "datetime.time" => ["fromisoformat"]
  | _ => []

/-! ## Values of moments -/

def ofDate (d : Date) : Run Value := Run.new (.date d)
def ofDateTime (t : DateTime) : Run Value := Run.new (.datetime t)

private def checked {α : Type} (r : Except Fault α) : Run α :=
  match r with
  | .ok a => return a
  | .error f => Run.valueError f.message

private def day : Int := 86400000000

/-- The offset that a zone stands for; none for no zone. -/
private def zoneOf (v : Value) : Run (Option Offset) := do
  match v with
  | .null => return none
  | v =>
    match ← Run.object? v with
    | some (.zone o _) => return some o
    | _ => Run.typeError ("tzinfo argument must be None or of a tzinfo subclass, not type '" ++
        (← v.kindName) ++ "'")

private def zoneValue (o : Option Offset) : Run Value :=
  match o with
  | none => return .null
  | some o => Run.new (.zone o none)

/-- The last date and the like of a class. -/
def constant? (cls name : String) : Run (Option Value) := do
  match cls, name with
  | "datetime.date", "min" => return some (← ofDate ⟨1, 1, 1⟩)
  | "datetime.date", "max" => return some (← ofDate ⟨9999, 12, 31⟩)
  | "datetime.date", "resolution" => return some (← makeSpan day)
  | "datetime.datetime", "min" => return some (← ofDateTime ⟨⟨1, 1, 1⟩, ⟨0, 0, 0, 0⟩, none⟩)
  | "datetime.datetime", "max" => return some (← ofDateTime ⟨⟨9999, 12, 31⟩, ⟨23, 59, 59, 999999⟩, none⟩)
  | "datetime.datetime", "resolution" | "datetime.timedelta", "resolution" => return some (← makeSpan 1)
  | "datetime.time", "min" => return some (← Run.new (.time ⟨0, 0, 0, 0⟩ none))
  | "datetime.time", "max" => return some (← Run.new (.time ⟨23, 59, 59, 999999⟩ none))
  | "datetime.time", "resolution" => return some (← makeSpan 1)
  | "datetime.timedelta", "min" => return some (← makeSpan (-999999999 * day))
  | "datetime.timedelta", "max" => return some (← makeSpan (1000000000 * day - 1))
  | "datetime.timezone", "utc" => return some (← zoneValue (some 0))
  | _, _ => return none

/-- The parts of a moment that are read like fields. -/
def field? (o : Obj) (name : String) : Run (Option Value) := do
  let num (n : Nat) : Run (Option Value) := return some (.int n)
  let ofTime (t : Time) (zone : Option Offset) : Run (Option Value) := do
    match name with
    | "hour" => num t.hour
    | "minute" => num t.minute
    | "second" => num t.second
    | "microsecond" => num t.micro
    | "fold" => num 0
    | "tzinfo" => return some (← zoneValue zone)
    | _ => return none
  let ofDay (d : Date) : Option Nat :=
    match name with
    | "year" => some d.year
    | "month" => some d.month
    | "day" => some d.day
    | _ => none
  let constants (cls : String) : Run (Option Value) := constant? cls name
  match o with
  | .date d =>
    match ofDay d with
    | some n => num n
    | none => constants "datetime.date"
  | .datetime t =>
    match ofDay t.date with
    | some n => num n
    | none =>
      match ← ofTime t.time t.offset with
      | some v => return some v
      | none => constants "datetime.datetime"
  | .time t o =>
    match ← ofTime t o with
    | some v => return some v
    | none => constants "datetime.time"
  | .span s =>
    match name with
    | "days" => return some (.int s.days)
    | "seconds" => return some (.int s.seconds)
    | "microseconds" => return some (.int s.micro)
    | _ => constants "datetime.timedelta"
  | .zone .. => constants "datetime.timezone"
  | _ => return none

/-! ## Making moments -/

private def numbers (args : List (Option Value)) (defaults : List Int) : Run (List Int) :=
  (args.zip defaults).mapM fun (v, d) =>
    match v with
    | none => return d
    | some v => v.index

/-- The arguments of a constructor. -/
private def constructorArguments (a : Args) (names : List String) (required : Nat) :
    Run (List (Option Value)) := do
  if a.pos.length + a.named.length > names.length then
    Run.typeError ("function takes at most " ++ toString names.length ++ " arguments (" ++
      toString (a.pos.length + a.named.length) ++ " given)")
  let missing := names.zipIdx.find? fun (n, i) =>
    i < required && i ≥ a.pos.length && (a.named.lookup n).isNone
  match missing with
  | some (n, i) =>
    Run.typeError ("function missing required argument '" ++ n ++ "' (pos " ++ toString (i + 1) ++ ")")
  | none => a.bound "function" names

def makeDate (a : Args) : Run Value := do
  match ← numbers (← constructorArguments a ["year", "month", "day"] 3) [0, 0, 0] with
  | [y, m, d] => ofDate (← checked (Date.make y m d))
  | _ => return .null

private def timeNames : List String := ["hour", "minute", "second", "microsecond", "tzinfo", "fold"]

def makeDateTime (a : Args) : Run Value := do
  let args ← constructorArguments a (["year", "month", "day"] ++ timeNames) 3
  match ← numbers (args.take 7) [0, 0, 0, 0, 0, 0, 0] with
  | [y, m, d, h, mi, s, u] =>
    let o ← zoneOf ((args.getD 7 none).getD .null)
    let d ← checked (Date.make y m d)
    let t ← checked (Time.make h mi s u)
    ofDateTime ⟨d, t, o⟩
  | _ => return .null

def makeTime (a : Args) : Run Value := do
  let args ← constructorArguments a timeNames 0
  match ← numbers (args.take 4) [0, 0, 0, 0] with
  | [h, m, s, u] =>
    let o ← zoneOf ((args.getD 4 none).getD .null)
    Run.new (.time (← checked (Time.make h m s u)) o)
  | _ => return .null

/-- The units that a span can be given in, in microseconds. -/
private def units : List (String × Int) :=
  [("days", day), ("seconds", 1000000), ("microseconds", 1), ("milliseconds", 1000), ("minutes", 60000000),
   ("hours", 3600000000), ("weeks", 7 * day)]

def makeDelta (a : Args) : Run Value := do
  let args ← a.bound "__new__" (units.map (·.1))
  let parts ← (args.zip units).mapM fun (v, name, unit) => do
    match v with
    | none => return (⟨0, 1⟩ : Number.Quotient)
    | some v =>
      match v.int?, v with
      | some n, _ => return ⟨n * unit, 1⟩
      | none, .float x =>
        match Number.Quotient.ofFloat? x with
        | some q => return ⟨q.num * unit, q.den⟩
        | none =>
          if x.isNaN then Run.valueError "cannot convert float NaN to integer"
          else Run.overflowError "cannot convert float infinity to integer"
      | none, _ =>
        Run.typeError ("unsupported type for timedelta " ++ name ++ " component: " ++ (← v.kindName))
  let sum := parts.foldl (fun (s q : Number.Quotient) => ⟨s.num * q.den + q.num * s.den, s.den * q.den⟩) ⟨0, 1⟩
  let micros := sum.roundEven
  if (micros.fdiv day).natAbs ≥ Nat.pow 2 31 then Run.overflowError "Python int too large to convert to C int"
  makeSpan micros

def makeZone (a : Args) : Run Value := do
  let args ← a.bound "timezone" ["offset", "name"] 1
  let offset := (args.headD none).getD .null
  match ← Run.object? offset with
  | some (.span s) =>
    if s.micros.natAbs ≥ day.natAbs then
      Run.valueError ("offset must be a timedelta strictly between -timedelta(hours=24) and timedelta(hours=24), not "
        ++ (← offset.display) ++ ".")
    let name ← match args.getD 1 none with
      | none => pure none
      | some v =>
        match v.text? with
        | some s => pure (some s)
        | none => Run.typeError ("timezone() argument 2 must be str, not " ++ (← v.kindName))
    Run.new (.zone (s.micros.fdiv 1000000) name)
  | _ =>
    Run.typeError ("timezone() argument 1 must be datetime.timedelta, not " ++ (← offset.kindName))

/-! ## Methods of classes -/

private def isoFault {α : Type} (s : String) (f : ReadFault) : Run α :=
  match f with
  | .shape => Run.valueError ("Invalid isoformat string: " ++ Text.quoted s)
  | .range f => Run.valueError f.message

private def isoText (v : Value) : Run String := do
  match v.text? with
  | some s => return s
  | none => Run.typeError "fromisoformat: argument must be str"

private def ofFormat (a : Args) : Run Value := do
  match ← a.between "strptime" 2 2 "datetime." with
  | [some s, some f] =>
    let text (i : Nat) (v : Value) : Run String := do
      match v.text? with
      | some s => return s
      | none =>
        Run.typeError ("strptime() argument " ++ toString i ++ " must be str, not " ++ (← v.kindName))
    let s ← text 1 s
    let f ← text 2 f
    match DateTime.ofFormat f.toList s.toList with
    | .ok t => ofDateTime t
    | .error (.badDirective c) =>
      Run.valueError ("'" ++ String.singleton c ++ "' is a bad directive in format " ++ Text.quoted f)
    | .error .stray => Run.valueError ("stray % in format " ++ Text.quoted f)
    | .error .noMatch =>
      Run.valueError ("time data " ++ Text.quoted s ++ " does not match format " ++ Text.quoted f)
    | .error (.remains r) => Run.valueError ("unconverted data remains: " ++ String.ofList r)
    | .error (.range e) => Run.valueError e.message
  | _ => return .null

private def ofSeconds (v : Value) (zone : Option Offset) : Run DateTime := do
  let micros ← match v.int?, v with
    | some n, _ => pure (n * 1000000)
    | none, .float x =>
      match Number.Quotient.ofFloat? x with
      | some q => pure (Number.Quotient.roundEven ⟨q.num * 1000000, q.den⟩)
      | none => Run.valueError "cannot convert float NaN to integer"
    | none, v =>
      Run.typeError ("'" ++ (← v.kindName) ++ "' object cannot be interpreted as an integer")
  let epoch : DateTime := ⟨⟨1970, 1, 1⟩, ⟨0, 0, 0, 0⟩, none⟩
  match DateTime.ofMicros? (epoch.micros + micros + zone.getD 0 * 1000000) zone with
  | some t => return t
  | none => Run.valueError "year is out of range"

/-- The moment at which clocks stand: the start of the count. -/
private def start : DateTime := ⟨⟨1970, 1, 1⟩, ⟨0, 0, 0, 0⟩, none⟩

/-- Calls a method of one of the classes. -/
def callClass (cls name : String) (a : Args) : Run Value := do
  let isDate := cls == "datetime.date"
  let finish (d : Date) : Run Value :=
    if isDate then ofDate d else ofDateTime ⟨d, ⟨0, 0, 0, 0⟩, none⟩
  match name with
  | "fromisoformat" =>
    let s ← isoText (← a.one (cls ++ "." ++ name))
    match cls with
    | "datetime.date" =>
      match readDateOnly s.toList with
      | .ok d => ofDate d
      | .error f => isoFault s f
    | "datetime.time" =>
      let body := match s.toList with
        | 'T' :: r => r
        | r => r
      match readTime body with
      | .ok (t, o) => Run.new (.time t o)
      | .error f => isoFault s f
    | _ =>
      match readDateTime s.toList with
      | .ok t => ofDateTime t
      | .error f => isoFault s f
  | "fromordinal" =>
    let n ← (← a.one (cls ++ "." ++ name)).index
    if n < 1 then Run.valueError "ordinal must be >= 1"
    if n > 3652059 then Run.valueError "year is out of range"
    finish (Date.ofNumber n.toNat)
  | "fromisocalendar" =>
    let args ← a.bound name ["year", "week", "day"] 3
    match ← numbers args [0, 0, 0] with
    | [y, w, d] =>
      if y < 1 || y > 9999 then Run.valueError ("Year is out of range: " ++ toString y)
      if d < 1 || d > 7 then Run.valueError ("Invalid weekday: " ++ toString d ++ " (range is [1, 7])")
      match Date.ofWeek y.toNat w.toNat d.toNat with
      | .ok d => finish d
      | .error _ => Run.valueError ("Invalid week: " ++ toString w)
    | _ => return .null
  | "strptime" => ofFormat a
  | "combine" =>
    let args ← a.bound name ["date", "time", "tzinfo"] 2
    let d := (args.getD 0 none).getD .null
    let t := (args.getD 1 none).getD .null
    let date ← match ← Run.object? d with
      | some (.date d) => pure d
      | some (.datetime t) => pure t.date
      | _ => Run.typeError ("combine() argument 1 must be datetime.date, not " ++ (← d.kindName))
    match ← Run.object? t with
    | some (.time t o) =>
      let o ← match args.getD 2 none with
        | some z => zoneOf z
        | none => pure o
      ofDateTime ⟨date, t, o⟩
    | _ => Run.typeError ("combine() argument 2 must be datetime.time, not " ++ (← t.kindName))
  | "fromtimestamp" =>
    let args ← a.bound name ["timestamp", "tz"] 1
    let zone ← zoneOf ((args.getD 1 none).getD .null)
    let t ← ofSeconds ((args.getD 0 none).getD .null) zone
    if isDate then ofDate t.date else ofDateTime t
  | "utcfromtimestamp" => ofDateTime (← ofSeconds (← a.one (cls ++ "." ++ name)) none)
  | "today" | "now" | "utcnow" => if isDate then ofDate start.date else ofDateTime start
  | _ => Run.attributeError ("type object '" ++ Classes.shortName cls ++ "' has no attribute '" ++ name ++ "'")

/-! ## Methods of moments -/

private def formatArgument (a : Args) : Run String := do
  let args ← a.bound "strftime" ["format"] 1
  let v := (args.headD none).getD .null
  match v.text? with
  | some s => return s
  | none => Run.typeError ("strftime() argument 1 must be str, not " ++ (← v.kindName))

/-- A tuple whose members have names. -/
private def record (name : String) (fields : List (String × Value)) : Run Value := do
  let cls ← Run.alloc (.cls
    { id := name, path := name, bases := [.cls "tuple"], members := [], fields := some (fields.map (·.1)),
      module := "datetime" })
  Run.new (.tuple (some cls) (fields.map (·.2)))

private def timeTuple (d : Date) (t : Time) : Run Value :=
  record "time.struct_time"
    [("tm_year", .int d.year), ("tm_mon", .int d.month), ("tm_mday", .int d.day), ("tm_hour", .int t.hour),
     ("tm_min", .int t.minute), ("tm_sec", .int t.second), ("tm_wday", .int d.weekday),
     ("tm_yday", .int d.dayOfYear), ("tm_isdst", .int (-1))]

/-- The time of day to a precision. -/
private def timeText (t : Time) (spec : String) : Run String := do
  let hm := pad 2 t.hour ++ ":" ++ pad 2 t.minute
  match spec with
  | "auto" => return t.show
  | "hours" => return pad 2 t.hour
  | "minutes" => return hm
  | "seconds" => return hm ++ ":" ++ pad 2 t.second
  | "milliseconds" => return hm ++ ":" ++ pad 2 t.second ++ "." ++ pad 3 (t.micro / 1000)
  | "microseconds" => return hm ++ ":" ++ pad 2 t.second ++ "." ++ pad 6 t.micro
  | _ => Run.valueError "Unknown timespec value"

private def offsetText (o : Option Offset) : String := (o.map showOffset).getD ""

private def spanOf (o : Option Offset) : Run Value :=
  match o with
  | none => return .null
  | some o => makeSpan (o * 1000000)

private def zoneName (o : Option Offset) : Value :=
  match o with
  | none => .null
  | some o => .str (if o = 0 then "UTC" else "UTC" ++ showOffset o)

private def callDay (d : Date) (name : String) (a : Args) (owner : String) : Run Value := do
  let label := owner ++ "." ++ name
  match name with
  | "toordinal" => do a.none label; return .int d.number
  | "weekday" => do a.none label; return .int d.weekday
  | "isoweekday" => do a.none label; return .int (d.weekday + 1)
  | "isocalendar" =>
    a.none label
    let (y, w, k) := d.week
    record "datetime.IsoCalendarDate" [("year", .int y), ("week", .int w), ("weekday", .int k)]
  | _ => Run.attributeError ("'datetime." ++ owner ++ "' object has no attribute '" ++ name ++ "'")

private def textArgument (v : Option Value) (default : String) : Run String := do
  match v with
  | none => return default
  | some v =>
    match v.text? with
    | some s => return s
    | none => Run.typeError ("isoformat() argument must be str, not " ++ (← v.kindName))

private def callDate (d : Date) (name : String) (a : Args) : Run Value := do
  let label := "date." ++ name
  let midnight : Time := ⟨0, 0, 0, 0⟩
  match name with
  | "isoformat" => do a.none label; return .str d.show
  | "ctime" => do a.none label; return .str (DateTime.format ⟨d, midnight, none⟩ "%c".toList)
  | "strftime" => return .str (DateTime.format ⟨d, midnight, none⟩ (← formatArgument a).toList)
  | "timetuple" => do a.none label; timeTuple d midnight
  | "replace" =>
    let args ← a.bound name ["year", "month", "day"]
    match ← numbers args [d.year, d.month, d.day] with
    | [y, m, d] => ofDate (← checked (Date.make y m d))
    | _ => return .null
  | _ => callDay d name a "date"

private def callDateTime (t : DateTime) (name : String) (a : Args) : Run Value := do
  let label := "datetime." ++ name
  match name with
  | "isoformat" =>
    let args ← a.bound name ["sep", "timespec"]
    let sep ← textArgument (args.getD 0 none) "T"
    let spec ← textArgument (args.getD 1 none) "auto"
    return .str (t.date.show ++ sep ++ (← timeText t.time spec) ++ offsetText t.offset)
  | "ctime" => do a.none label; return .str (t.format "%c".toList)
  | "strftime" => return .str (t.format (← formatArgument a).toList)
  | "timetuple" => do a.none label; timeTuple t.date t.time
  | "date" => do a.none label; ofDate t.date
  | "time" => do a.none label; Run.new (.time t.time none)
  | "timetz" => do a.none label; Run.new (.time t.time t.offset)
  | "utcoffset" => do a.none label; spanOf t.offset
  | "dst" => do a.none label; return .null
  | "tzname" => do a.none label; return zoneName t.offset
  | "timestamp" =>
    a.none label
    let micros := t.moment - start.micros
    return .float (Number.nearest ⟨micros, 1000000⟩)
  | "astimezone" =>
    let args ← a.bound name ["tz"]
    let o ← zoneOf ((args.headD none).getD .null)
    let o := o.getD 0
    match DateTime.ofMicros? (t.moment + o * 1000000) (some o) with
    | some t => ofDateTime t
    | none => Run.overflowError "date value out of range"
  | "replace" =>
    let args ← a.bound name (["year", "month", "day"] ++ timeNames)
    match ← numbers (args.take 7)
      [t.date.year, t.date.month, t.date.day, t.time.hour, t.time.minute, t.time.second, t.time.micro] with
    | [y, m, d, h, mi, s, u] =>
      let o ← match args.getD 7 none with
        | none => pure t.offset
        | some z => zoneOf z
      let d ← checked (Date.make y m d)
      ofDateTime ⟨d, ← checked (Time.make h mi s u), o⟩
    | _ => return .null
  | _ => callDay t.date name a "datetime"

private def callTime (t : Time) (o : Option Offset) (name : String) (a : Args) : Run Value := do
  let label := "time." ++ name
  match name with
  | "isoformat" =>
    let args ← a.bound name ["timespec"]
    return .str ((← timeText t (← textArgument (args.getD 0 none) "auto")) ++ offsetText o)
  | "strftime" => return .str (DateTime.format ⟨⟨1900, 1, 1⟩, t, o⟩ (← formatArgument a).toList)
  | "utcoffset" => do a.none label; spanOf o
  | "dst" => do a.none label; return .null
  | "tzname" => do a.none label; return zoneName o
  | _ =>
    let args ← a.bound name timeNames
    match ← numbers (args.take 4) [t.hour, t.minute, t.second, t.micro] with
    | [h, m, s, u] =>
      let o ← match args.getD 4 none with
        | none => pure o
        | some z => zoneOf z
      Run.new (.time (← checked (Time.make h m s u)) o)
    | _ => return .null

/-- Calls a method of a moment. -/
def call (o : Obj) (name : String) (a : Args) : Run Value := do
  match o with
  | .date d =>
    if (classMethods "datetime.date").contains name then callClass "datetime.date" name a
    else callDate d name a
  | .datetime t =>
    if (classMethods "datetime.datetime").contains name then callClass "datetime.datetime" name a
    else callDateTime t name a
  | .time t o =>
    if name == "fromisoformat" then callClass "datetime.time" name a else callTime t o name a
  | .span s =>
    a.none ("timedelta." ++ name)
    return .float (Number.nearest ⟨s.micros, 1000000⟩)
  | .zone o n =>
    match name with
    | "utcoffset" => spanOf (some o)
    | "tzname" => return (n.map Value.str).getD (zoneName (some o))
    | _ => return .null
  | _ => return .null

end Stepwise.Moments
