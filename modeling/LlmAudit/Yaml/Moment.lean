import LlmAudit.Number.Reader

/-!
# Dates and times

A day of the calendar and, if one is written, a time of that day with the zone of its clock. A time
may be written with a blank or a letter before it, a fraction of a second and a zone.

## Main definitions

* `Moment` — a day, or a day and a time.
* `Moment.ofText?` — the moment that a text writes, whether or not the calendar has it.
* `Moment.fault?` — why the calendar or the clock does not have a moment.
* `Moment.render`, `Moment.shown` — the texts of a moment.
-/

namespace LlmAudit

/-- A time of day. -/
structure TimeOfDay where
  /-- The hour. -/
  hour : Nat
  /-- The minute. -/
  minute : Nat
  /-- The second. -/
  second : Nat
  /-- The millionths of a second. -/
  micros : Nat
  /-- The minutes by which the clock is ahead, if they are given. -/
  zone : Option Int
  deriving DecidableEq

/-- A day and, if one is given, a time. -/
structure Moment where
  /-- The year. -/
  year : Nat
  /-- The month, from one on. -/
  month : Nat
  /-- The day of the month, from one on. -/
  day : Nat
  /-- The time. -/
  time : Option TimeOfDay
  deriving DecidableEq

namespace Moment

/-! ### Reading -/

/-- A number of at least `least` and at most `most` digits, and the text after it. -/
def takeNumber (least most : Nat) (s : List Char) : Option (Nat × List Char) :=
  let digits := (s.take most).takeWhile Char.isDigit
  if digits.length < least then none else some (digitsToNat digits, s.drop digits.length)

/-- The text after a character. -/
def takeMark (c : Char) (s : List Char) : Option (List Char) :=
  match s with
  | d :: rest => if d = c then some rest else none
  | [] => none

/-- The text without the spaces and tabs at its front. -/
def skipGap (s : List Char) : List Char :=
  s.dropWhile fun c => c == ' ' || c == '\t'

/-- Whether a text is at its end, but for one line feed. -/
def isEnd (s : List Char) : Bool :=
  s.isEmpty || s == ['\n']

/-- The minutes that a clock is ahead, and nothing after them. -/
def zoneOf? (s : List Char) : Option (Option Int) :=
  if isEnd s then some none
  else
    match skipGap s with
    | 'Z' :: rest => if isEnd rest then some (some 0) else none
    | sign :: rest =>
      if sign = '+' ∨ sign = '-' then do
        let (hours, rest) ← takeNumber 1 2 rest
        let minutes ←
          if isEnd rest then some 0
          else do
            let (minutes, rest) ← takeNumber 2 2 (← takeMark ':' rest)
            if isEnd rest then some minutes else none
        let ahead : Int := hours * 60 + minutes
        some (some (if sign = '-' then -ahead else ahead))
      else none
    | [] => none

/-- The time of day that a text writes after a date. -/
def timeOf? (s : List Char) : Option TimeOfDay := do
  let start ←
    match s with
    | 'T' :: rest => some rest
    | 't' :: rest => some rest
    | _ => if (skipGap s).length = s.length then none else some (skipGap s)
  let (hour, s1) ← takeNumber 1 2 start
  let (minute, s2) ← takeNumber 2 2 (← takeMark ':' s1)
  let (second, s3) ← takeNumber 2 2 (← takeMark ':' s2)
  let (fraction, s4) := match s3 with
    | '.' :: rest => (rest.takeWhile Char.isDigit, rest.dropWhile Char.isDigit)
    | _ => ([], s3)
  let zone ← zoneOf? s4
  let sixDigits := fraction.take 6 ++ List.replicate (6 - fraction.length) '0'
  some ⟨hour, minute, second, digitsToNat sixDigits, zone⟩

/-- The parts that a text writes, whether or not the calendar and the clock have them. A date alone
may have months and days of one digit. -/
def ofText? (s : List Char) : Option Moment := do
  let (year, s1) ← takeNumber 4 4 s
  let (month, s2) ← takeNumber 1 2 (← takeMark '-' s1)
  let (day, s3) ← takeNumber 1 2 (← takeMark '-' s2)
  if isEnd s3 then some ⟨year, month, day, none⟩
  else
    let time ← timeOf? s3
    some ⟨year, month, day, some time⟩

/-- Whether a text has the form of a moment without being told to: a date alone has all its
digits. -/
def isWritten (s : List Char) : Bool :=
  match ofText? s with
  | some m => m.time.isSome || decide ((s.filter (· != '\n')).length = 10)
  | none => false

/-! ### The calendar and the clock -/

/-- What the calendar or the clock does not have. -/
inductive Fault where
  /-- A zone of a day or more, of so many minutes. -/
  | zone (minutes : Int)
  /-- A year. -/
  | year (n : Nat)
  /-- A month. -/
  | month
  /-- A day of the month. -/
  | day
  /-- An hour. -/
  | hour
  /-- A minute. -/
  | minute
  /-- A second. -/
  | second
  deriving DecidableEq

/-- The number of days of a month. -/
def daysIn (year month : Nat) : Nat :=
  if month = 2 then
    if year % 4 = 0 ∧ (year % 100 ≠ 0 ∨ year % 400 = 0) then 29 else 28
  else if month = 4 ∨ month = 6 ∨ month = 9 ∨ month = 11 then 30
  else 31

/-- The first thing about a day that the calendar does not have. -/
def dayFault? (m : Moment) : Option Fault :=
  if m.year = 0 then some (.year m.year)
  else if ¬(1 ≤ m.month ∧ m.month ≤ 12) then some .month
  else if ¬(1 ≤ m.day ∧ m.day ≤ daysIn m.year m.month) then some .day
  else none

/-- The first thing about a time that the clock does not have. -/
def timeFault? (t : TimeOfDay) : Option Fault :=
  if 24 ≤ t.hour then some .hour
  else if 60 ≤ t.minute then some .minute
  else if 60 ≤ t.second then some .second
  else none

/-- The zone of a time if it is a day or more. -/
def zoneFault? (t : TimeOfDay) : Option Fault :=
  match t.zone with
  | some minutes => if minutes.natAbs < 1440 then none else some (.zone minutes)
  | none => none

/-- The first thing that the calendar and the clock do not have: the zone, then the day, then the
time. -/
def fault? (m : Moment) : Option Fault :=
  match m.time with
  | none => dayFault? m
  | some t =>
    match zoneFault? t with
    | some f => some f
    | none =>
      match dayFault? m with
      | some f => some f
      | none => timeFault? t

/-! ### Instants -/

/-- The days of the months before a month. -/
def daysBefore (year month : Nat) : Nat :=
  ((List.range (month - 1)).map fun k => daysIn year (k + 1)).foldr (· + ·) 0

/-- The days from a fixed day to a day. -/
def dayNumber (m : Moment) : Nat :=
  let y := m.year - 1
  y * 365 + y / 4 - y / 100 + y / 400 + daysBefore m.year m.month + m.day

/-- The minutes and the rest of a moment on a clock without a zone: whether it has one, the minutes,
the seconds and their millionths. Moments with zones are the same instant if these agree. -/
def instant (m : Moment) : Option (Bool × Int × Nat × Nat) :=
  m.time.map fun t =>
    let minutes : Int := m.dayNumber * 1440 + t.hour * 60 + t.minute
    (t.zone.isSome, minutes - t.zone.getD 0, t.second, t.micros)

/-- Whether two moments are the same: days as they are written, times by their instants. -/
def same (a b : Moment) : Bool :=
  match a.instant, b.instant with
  | none, none => a == b
  | some x, some y => x == y
  | _, _ => false

/-! ### Texts -/

/-- A number with zeros in front up to a width. -/
def padded (width n : Nat) : List Char :=
  let digits := Nat.toDigits 10 n
  List.replicate (width - digits.length) '0' ++ digits

/-- A zone as hours and minutes. -/
def renderZone : Option Int → List Char
  | none => []
  | some minutes =>
    (if minutes < 0 then '-' else '+') :: padded 2 (minutes.natAbs / 60) ++
      ':' :: padded 2 (minutes.natAbs % 60)

/-- A time of day with its zone. -/
def renderTime (t : TimeOfDay) : List Char :=
  padded 2 t.hour ++ ':' :: padded 2 t.minute ++ ':' :: padded 2 t.second ++
    (if t.micros = 0 then [] else '.' :: padded 6 t.micros) ++ renderZone t.zone

/-- The text of a moment. -/
def render (m : Moment) : String :=
  let date := padded 4 m.year ++ '-' :: padded 2 m.month ++ '-' :: padded 2 m.day
  String.ofList (match m.time with
    | none => date
    | some t => date ++ ' ' :: renderTime t)

/-- Minutes as days and seconds that are not below zero. -/
def shownSpan (minutes : Int) : String :=
  let days := minutes / 1440
  let seconds := minutes % 1440 * 60
  let parts := (if days = 0 then [] else ["days=" ++ renderInt days]) ++
    (if seconds = 0 then [] else ["seconds=" ++ renderInt seconds])
  "datetime.timedelta(" ++ (if parts.isEmpty then "0" else ", ".intercalate parts) ++ ")"

/-- A zone inside other values. -/
def shownZone (minutes : Int) : String :=
  if minutes = 0 then "datetime.timezone.utc"
  else "datetime.timezone(" ++ shownSpan minutes ++ ")"

/-- The numbers of a time of day: the seconds and their millionths only if they are needed. -/
def timeNumbers (t : TimeOfDay) : List Nat :=
  [t.hour, t.minute] ++
    (if t.micros ≠ 0 then [t.second, t.micros] else if t.second ≠ 0 then [t.second] else [])

/-- The text of a moment inside other values. -/
def shown (m : Moment) : String :=
  let numbers (ns : List Nat) : List String := ns.map fun (n : Nat) => renderInt n
  match m.time with
  | none => "datetime.date(" ++ ", ".intercalate (numbers [m.year, m.month, m.day]) ++ ")"
  | some t =>
    let zone := match t.zone with
      | some minutes => ["tzinfo=" ++ shownZone minutes]
      | none => []
    "datetime.datetime(" ++
      ", ".intercalate (numbers ([m.year, m.month, m.day] ++ timeNumbers t) ++ zone) ++ ")"

/-- What is said of a moment that the calendar and the clock do not have. -/
def Fault.message : Fault → String
  | .zone minutes =>
    "offset must be a timedelta strictly between -timedelta(hours=24) and " ++
      "timedelta(hours=24), not " ++ shownSpan minutes ++ "."
  | .year n => "year " ++ renderInt n ++ " is out of range"
  | .month => "month must be in 1..12"
  | .day => "day is out of range for month"
  | .hour => "hour must be in 0..23"
  | .minute => "minute must be in 0..59"
  | .second => "second must be in 0..59"

end Moment

end LlmAudit
