import ReleaseCatalog.Date.Calendar
import ReleaseCatalog.Date.Scan

/-!
# Internet timestamps

The layout of RFC 3339, `2024-01-15T08:30:00.5+02:00`: four digits of year, two
of everything else, `T` or a blank before the time, any number of digits after
the point of which nine count, and a zone that is `Z` or hours and minutes. The
timestamp read is the instant's time in UTC.
-/

namespace ReleaseCatalog.Date

open Text

/-- Digits after the decimal point, as nanoseconds. Digits after the ninth are
passed over. -/
def fraction : Reader Nat := fun s => do
  let (n, rest) ← number 1 9 s
  let taken := s.length - rest.length
  return (n * Nat.pow 10 (9 - taken), rest.dropWhile isDigit)

/-- The zone of an Internet timestamp, as minutes ahead of UTC. -/
def internetZone : Reader Int := fun s =>
  match s with
  | 'Z' :: rest | 'z' :: rest => some (0, rest)
  | _ => zoneOffset (mark ':') true s

/-- The timestamp in UTC of a text in the Internet layout. -/
def internet? (s : List Char) : Option Timestamp := do
  let (year, s) ← number 4 4 s
  let s ← mark '-' s
  let (month, s) ← number 2 2 s
  let s ← mark '-' s
  let (day, s) ← number 2 2 s
  let s ← match s with
    | 'T' :: rest | 't' :: rest | ' ' :: rest => some rest
    | _ => none
  let (hour, s) ← number 2 2 s
  let s ← mark ':' s
  let (minute, s) ← number 2 2 s
  let s ← mark ':' s
  let (second, s) ← number 2 2 s
  let (nano, s) ← match s with
    | '.' :: rest => fraction rest
    | _ => some (0, s)
  let (zone, s) ← internetZone s
  if s = [] ∧ isZone zone then
    let here : Timestamp := ⟨← Day.of? year month day, ← Clock.of? hour minute second nano⟩
    here.minus? zone
  else none

end ReleaseCatalog.Date
