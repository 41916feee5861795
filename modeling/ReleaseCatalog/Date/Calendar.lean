import ReleaseCatalog.Text.Decimal

/-!
# Calendar days and times of day

The Gregorian calendar, extended to all years in both directions, and times of
day with leap seconds. `Timestamp` is a day with a time, without a zone;
everything that the catalog compares by date is one.

* `Day.of?` and `Clock.of?` are the only ways to make a day or a time from
  numbers, so every `Day` is on the calendar and every `Clock` on the clock;
* `Timestamp.compare` is the chronological order;
* `Timestamp.stamp` is the form that a catalog entry keeps, a date and a minute.
-/

namespace ReleaseCatalog

open Text

/-- A year with a 29th of February. -/
def isLeapYear (year : Int) : Bool := year % 4 == 0 && (year % 100 != 0 || year % 400 == 0)

/-- The number of days of a month, zero if there is no such month. -/
def daysInMonth (year : Int) (month : Nat) : Nat :=
  match month with
  | 2 => if isLeapYear year then 29 else 28
  | 4 | 6 | 9 | 11 => 30
  | 1 | 3 | 5 | 7 | 8 | 10 | 12 => 31
  | _ => 0

/-- The first and the last year of the calendar. -/
def firstYear : Int := -262143

@[inherit_doc firstYear]
def lastYear : Int := 262142

/-- The three numbers name a day of the calendar. -/
def IsDay (year : Int) (month day : Nat) : Prop :=
  firstYear ≤ year ∧ year ≤ lastYear ∧ 1 ≤ day ∧ day ≤ daysInMonth year month

instance (year : Int) (month day : Nat) : Decidable (IsDay year month day) :=
  inferInstanceAs (Decidable (_ ∧ _))

structure Day where
  year : Int
  month : Nat
  day : Nat
  isDay : IsDay year month day
deriving DecidableEq

/-- A time of day, to the nanosecond. A leap second is the second 60 of its minute. -/
structure Clock where
  hour : Nat
  minute : Nat
  second : Nat
  nano : Nat
  hour_lt : hour < 24
  minute_lt : minute < 60
  second_le : second ≤ 60
  nano_lt : nano < 1000000000
deriving DecidableEq

/-- A day and a time of that day. -/
structure Timestamp where
  day : Day
  clock : Clock
deriving DecidableEq

namespace Day

/-- The day with these numbers, if there is one. -/
def of? (year : Int) (month day : Nat) : Option Day :=
  if h : IsDay year month day then some ⟨year, month, day, h⟩ else none

/-- The day after, none after the last day of the calendar. -/
def next? (d : Day) : Option Day :=
  if d.day < daysInMonth d.year d.month then of? d.year d.month (d.day + 1)
  else if d.month < 12 then of? d.year (d.month + 1) 1
  else of? (d.year + 1) 1 1

/-- The day before, none before the first day of the calendar. -/
def previous? (d : Day) : Option Day :=
  if 1 < d.day then of? d.year d.month (d.day - 1)
  else if 1 < d.month then of? d.year (d.month - 1) (daysInMonth d.year (d.month - 1))
  else of? (d.year - 1) 12 31

/-- The day's number within its year, counted from one. -/
def dayOfYear (d : Day) : Nat :=
  (List.range' 1 (d.month - 1)).foldl (fun n month => n + daysInMonth d.year month) d.day

/-- The day of the week, counted from zero for Monday: the first day of year one
was a Monday. -/
def weekday (d : Day) : Nat :=
  let years := d.year - 1
  ((365 * years + years / 4 - years / 100 + years / 400 + (d.dayOfYear : Int) - 1) % 7).toNat

def compare (a b : Day) : Ordering :=
  (Ord.compare a.year b.year).then <|
    (Ord.compare a.month b.month).then <| Ord.compare a.day b.day

/-- A year is written with four digits, and with a sign where four digits do not
hold it. -/
def yearText (year : Int) : List Char :=
  if 0 ≤ year ∧ year ≤ 9999 then paddedDigits 4 year.toNat
  else (if year < 0 then '-' else '+') :: paddedDigits 4 year.natAbs

def text (d : Day) : List Char :=
  yearText d.year ++ '-' :: paddedDigits 2 d.month ++ '-' :: paddedDigits 2 d.day

end Day

namespace Clock

/-- The time of day with these numbers, if there is one. -/
def of? (hour minute second nano : Nat) : Option Clock :=
  if h : hour < 24 ∧ minute < 60 ∧ second ≤ 60 ∧ nano < 1000000000 then
    some ⟨hour, minute, second, nano, h.1, h.2.1, h.2.2.1, h.2.2.2⟩
  else none

def midnight : Clock :=
  ⟨0, 0, 0, 0, by decide, by decide, by decide, by decide⟩

/-- The chronological order of the times of one day. -/
def compare (a b : Clock) : Ordering :=
  (Ord.compare a.hour b.hour).then <|
    (Ord.compare a.minute b.minute).then <|
      (Ord.compare a.second b.second).then <| Ord.compare a.nano b.nano

/-- A fraction of a second is written in three, six or nine digits, and not at
all if zero. -/
def fractionText (nano : Nat) : List Char :=
  if nano = 0 then []
  else if nano % 1000000 = 0 then '.' :: paddedDigits 3 (nano / 1000000)
  else if nano % 1000 = 0 then '.' :: paddedDigits 6 (nano / 1000)
  else '.' :: paddedDigits 9 nano

def minuteText (c : Clock) : List Char :=
  paddedDigits 2 c.hour ++ ':' :: paddedDigits 2 c.minute

/-- Hours, minutes, seconds and what fraction there is. -/
def text (c : Clock) : List Char :=
  c.minuteText ++ ':' :: paddedDigits 2 c.second ++ fractionText c.nano

end Clock

namespace Timestamp

def compare (a b : Timestamp) : Ordering := (a.day.compare b.day).then (a.clock.compare b.clock)

/-- The same instant on a clock that runs `minutes` behind, for less than a day. -/
def minus? (t : Timestamp) (minutes : Int) : Option Timestamp := do
  let total : Int := 60 * t.clock.hour + t.clock.minute - minutes
  let day ← if total < 0 then t.day.previous? else if 1440 ≤ total then t.day.next? else some t.day
  let inDay := (total % 1440).toNat
  let clock ← Clock.of? (inDay / 60) (inDay % 60) t.clock.second t.clock.nano
  return ⟨day, clock⟩

/-- Day and time with a `T` between, to the last digit that is not zero. -/
def text (t : Timestamp) : String := String.ofList (t.day.text ++ 'T' :: t.clock.text)

/-- Day and minute with a blank between: the form in which a catalog entry keeps
the time at which it was added. -/
def stamp (t : Timestamp) : String := String.ofList (t.day.text ++ ' ' :: t.clock.minuteText)

end Timestamp

end ReleaseCatalog
