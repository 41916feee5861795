import ReleaseCatalog.Text.Blank
import ReleaseCatalog.Text.Decimal

/-!
# Reading the parts of a date

Each reader takes its part from the front of a text and gives the part with the
rest of the text, or nothing if the text does not start with such a part.
Numbers are written in ASCII digits; blanks are Unicode white space; names of
months and week days do not regard case.
-/

namespace ReleaseCatalog.Date

open Text

/-- What a reader gives: the value it read and the text after it. -/
abbrev Reader (α : Type) := List Char → Option (α × List Char)

/-- No number that a date is read from exceeds this one. -/
def largestNumber : Nat := 9223372036854775807

/-- A number of at least `least` digits; no more than `most` digits are taken
for it. -/
def number (least most : Nat) : Reader Nat := fun s =>
  let taken := (s.take most).takeWhile isDigit
  let n := natOfDigits taken
  if least ≤ taken.length ∧ n ≤ largestNumber then some (n, s.drop taken.length) else none

/-- A number of at least `least` digits, as many as there are. -/
def wholeNumber (least : Nat) : Reader Nat := fun s => number least s.length s

def mark (c : Char) (s : List Char) : Option (List Char) :=
  match s with
  | x :: rest => if x = c then some rest else none
  | [] => none

/-- At least one blank, and all that follow it. -/
def blanks (s : List Char) : Option (List Char) :=
  match s with
  | c :: rest => if isBlank c then some (trimStart rest) else none
  | [] => none

/-- A given word in any mixture of upper and lower case. The word is given in
lower case. -/
def word : List Char → List Char → Option (List Char)
  | [], s => some s
  | _ :: _, [] => none
  | w :: ws, c :: rest => if c.toLower = w then word ws rest else none

/-- The months' names in lower case: the first three letters, and the letters
after them. -/
def monthNames : List (String × String) :=
  [("jan", "uary"), ("feb", "ruary"), ("mar", "ch"), ("apr", "il"), ("may", ""), ("jun", "e"),
   ("jul", "y"), ("aug", "ust"), ("sep", "tember"), ("oct", "ober"), ("nov", "ember"),
   ("dec", "ember")]

/-- The first three letters of the week days, Monday first. -/
def weekdayNames : List String := ["mon", "tue", "wed", "thu", "fri", "sat", "sun"]

/-- The first name of a list that the text starts with: its place in the list,
and the rest. -/
def oneOf (names : List String) : Reader Nat := fun s =>
  (names.zipIdx).findSome? fun (name, i) => (word name.toList s).map (i, ·)

/-- The short name of a month, as the number of the month. -/
def shortMonth : Reader Nat := fun s =>
  (oneOf (monthNames.map (·.1)) s).map fun (i, rest) => (i + 1, rest)

/-- The short or the full name of a month, as the number of the month. -/
def longMonth : Reader Nat := fun s => do
  let (month, rest) ← shortMonth s
  let ending := ((monthNames.map (·.2))[month - 1]?).getD ""
  return (month, (word ending.toList rest).getD rest)

/-- The short name of a week day, counted from zero for Monday. -/
def shortWeekday : Reader Nat := oneOf weekdayNames

/-- Signed hours and minutes of a zone, as minutes. Between them stands what
`between` takes away. The minus sign of typography is a sign only where
`typographic` says so. -/
def zoneOffset (between : List Char → Option (List Char)) (typographic : Bool) : Reader Int :=
  fun s => do
    let (negative, s) ← match s with
      | '+' :: rest => some (false, rest)
      | '-' :: rest => some (true, rest)
      | '−' :: rest => if typographic then some (true, rest) else none
      | _ => none
    let (hours, s) ← number 2 2 s
    let s ← between s
    let (minutes, s) ← number 2 2 s
    if minutes < 60 then
      let total : Int := 60 * hours + minutes
      return (if negative then -total else total, s)
    else none

/-- A zone is less than a day away. -/
def isZone (minutes : Int) : Bool := -1440 < minutes && minutes < 1440

end ReleaseCatalog.Date
