import Codegen.Text.Basic

/-! Dates and times of day, and their written forms. -/

namespace Codegen

structure Date where
  year : Nat
  month : Nat
  day : Nat
  deriving Repr, DecidableEq, Inhabited

/-- A date with a time of day; `offset` counts seconds ahead of universal time. -/
structure Moment where
  date : Date
  hour : Nat
  minute : Nat
  second : Nat
  microsecond : Nat
  offset : Option Int
  deriving Repr, DecidableEq, Inhabited

namespace Date

def isLeapYear (year : Nat) : Bool :=
  year % 4 = 0 && (year % 100 ≠ 0 || year % 400 = 0)

def daysInMonth (year month : Nat) : Nat :=
  if month = 2 then (if isLeapYear year then 29 else 28)
  else if month = 4 ∨ month = 6 ∨ month = 9 ∨ month = 11 then 30
  else 31

end Date

inductive CalendarFault
  | year (n : Nat)
  | month
  | day
  | hour
  | minute
  | second
  | offset (seconds : Int)
  deriving Repr, DecidableEq, Inhabited

def Date.fault? (d : Date) : Option CalendarFault :=
  if d.year = 0 ∨ 9999 < d.year then some (.year d.year)
  else if d.month = 0 ∨ 12 < d.month then some .month
  else if d.day = 0 ∨ daysInMonth d.year d.month < d.day then some .day
  else none

def spanText (seconds : Int) : String :=
  let part (name : String) (n : Int) : List String := if n = 0 then [] else [s!"{name}={n}"]
  let parts := part "days" (seconds / 86400) ++ part "seconds" (seconds % 86400)
  "datetime.timedelta(" ++ (if parts.isEmpty then "0" else Text.join ", " parts) ++ ")"

def CalendarFault.text : CalendarFault → String
  | year n => s!"year {n} is out of range"
  | month => "month must be in 1..12"
  | day => "day is out of range for month"
  | hour => "hour must be in 0..23"
  | minute => "minute must be in 0..59"
  | second => "second must be in 0..59"
  | offset seconds =>
    "offset must be a timedelta strictly between -timedelta(hours=24) and timedelta(hours=24), not "
      ++ spanText seconds ++ "."

def Date.parts (d : Date) : List (String × Nat) :=
  [("year", d.year), ("month", d.month), ("day", d.day)]

def Moment.parts (t : Moment) : List (String × Nat) :=
  t.date.parts
    ++ [("hour", t.hour), ("minute", t.minute), ("second", t.second), ("microsecond", t.microsecond)]

def zeroPadded (width n : Nat) : String :=
  let digits := toString n
  String.ofList (List.replicate (width - digits.length) '0') ++ digits

def Date.text (d : Date) : String :=
  zeroPadded 4 d.year ++ "-" ++ zeroPadded 2 d.month ++ "-" ++ zeroPadded 2 d.day

namespace Moment

def offsetText (offset : Int) : String :=
  let n := offset.natAbs
  let seconds := n % 60
  (if offset < 0 then "-" else "+") ++ zeroPadded 2 (n / 3600) ++ ":" ++ zeroPadded 2 (n / 60 % 60)
    ++ (if seconds = 0 then "" else ":" ++ zeroPadded 2 seconds)

def text (t : Moment) (between : String := "T") : String :=
  t.date.text ++ between ++ zeroPadded 2 t.hour ++ ":" ++ zeroPadded 2 t.minute ++ ":"
    ++ zeroPadded 2 t.second
    ++ (if t.microsecond = 0 then "" else "." ++ zeroPadded 6 t.microsecond)
    ++ (t.offset.map offsetText).getD ""

def daysBefore (year : Nat) : (month : Nat) → Nat
  | 0 | 1 => 0
  | month + 1 => daysBefore year month + Date.daysInMonth year month

def dayNumber (d : Date) : Nat :=
  let past := d.year - 1
  past * 365 + past / 4 - past / 100 + past / 400 + daysBefore d.year d.month + d.day

def shown (t : Moment) : Int :=
  (((dayNumber t.date * 24 + t.hour) * 60 + t.minute) * 60 + t.second) * 1000000 + t.microsecond

def instant (t : Moment) : Int := t.shown - (t.offset.getD 0) * 1000000

/-- Equality as points in time. A moment without an offset is not the same as one with an offset. -/
def same (a b : Moment) : Bool := a.offset.isSome == b.offset.isSome && a.instant == b.instant

/-- The first number of a moment that is out of range. The offset, which stays below a day, comes
before the others. -/
def fault? (t : Moment) : Option CalendarFault :=
  let offset := t.offset.filter fun n => 86400 ≤ n.natAbs
  (offset.map .offset).or <| t.date.fault?.or <|
    if 24 ≤ t.hour then some .hour
    else if 60 ≤ t.minute then some .minute
    else if 60 ≤ t.second then some .second
    else none

end Moment

end Codegen
