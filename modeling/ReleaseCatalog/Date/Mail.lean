import ReleaseCatalog.Date.Calendar
import ReleaseCatalog.Date.Scan

/-!
# Mail dates

The layout of RFC 2822, `Mon, 15 Jan 2024 08:30:00 +0200 (note)`: the week day
and the seconds may be left out, a year of two or three digits counts from 1900
or 2000, the zone is signed digits or one of a few names, and notes in
parentheses may follow. A week day that is given has to be the day's own. The
timestamp read is the instant's time in UTC.
-/

namespace ReleaseCatalog.Date

open Text

/-- A year as mail dates abbreviate it: two digits stand for 1950 to 2049, three
count from 1900, more stand for themselves. -/
def fullYear (digits year : Nat) : Nat :=
  if digits = 2 then (if year < 50 then year + 2000 else year + 1900)
  else if digits = 3 then year + 1900
  else year

/-- The zones with a name, in hours ahead of UTC. -/
def namedZones : List (String × Int) :=
  [("gmt", 0), ("ut", 0), ("z", 0), ("edt", -4), ("est", -5), ("cdt", -5), ("cst", -6),
   ("mdt", -6), ("mst", -7), ("pdt", -7), ("pst", -8)]

/-- The zone of a mail date, as minutes ahead of UTC. A single letter other than
`J` says nothing about the zone and is read as UTC. -/
def mailZone : Reader Int := fun s =>
  let name := (s.takeWhile Char.isAlpha).map Char.toLower
  let rest := s.dropWhile Char.isAlpha
  if name = [] then zoneOffset some false s
  else
    match namedZones.lookup (String.ofList name) with
    | some hours => some (60 * hours, rest)
    | none => if name.length = 1 ∧ name ≠ ['j'] then some (0, rest) else none

/-- The text after the parenthesis that closes as many as are open. A backslash
takes the special meaning from the character after it. -/
def closeNote : Nat → List Char → Option (List Char)
  | _, [] => none
  | depth, '\\' :: _ :: rest => closeNote depth rest
  | depth, '(' :: rest => closeNote (depth + 1) rest
  | depth, ')' :: rest => if depth ≤ 1 then some rest else closeNote (depth - 1) rest
  | depth, _ :: rest => closeNote depth rest

/-- The text consists of notes in parentheses, with blanks before each. -/
def onlyNotes (fuel : Nat) (s : List Char) : Bool :=
  match fuel, s with
  | _, [] => true
  | 0, _ => false
  | fuel + 1, s =>
    match trimStart s with
    | '(' :: rest =>
      match closeNote 1 rest with
      | some rest => onlyNotes fuel rest
      | none => false
    | _ => false

/-- The timestamp in UTC of a text in the mail layout. -/
def mail? (s : List Char) : Option Timestamp := do
  let (weekday, s) ← match shortWeekday (trimStart s) with
    | some (weekday, rest) => (mark ',' rest).map (some weekday, ·)
    | none => some (none, trimStart s)
  let (day, s) ← number 1 2 (trimStart s)
  let s ← blanks s
  let (month, s) ← shortMonth s
  let s ← blanks s
  let (year, afterYear) ← wholeNumber 2 s
  let year := fullYear (s.length - afterYear.length) year
  let s ← blanks afterYear
  let (hour, s) ← number 2 2 s
  let s ← mark ':' (trimStart s)
  let (minute, s) ← number 2 2 (trimStart s)
  let (second, s) ← match mark ':' (trimStart s) with
    | some rest => number 2 2 rest
    | none => some (0, s)
  let s ← blanks s
  let (zone, s) ← mailZone s
  let date ← Day.of? year month day
  let clock ← Clock.of? hour minute second 0
  if onlyNotes s.length s ∧ isZone zone ∧ (weekday = none ∨ weekday = some date.weekday) then
    Timestamp.minus? ⟨date, clock⟩ zone
  else none

end ReleaseCatalog.Date
