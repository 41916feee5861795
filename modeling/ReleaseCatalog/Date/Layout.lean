import ReleaseCatalog.Date.Internet
import ReleaseCatalog.Date.Mail

/-!
# Date layouts

A layout is a list of pieces; reading a text by a layout takes the pieces from
the front of the text one by one and asks that nothing is left. Blanks in a
layout stand for any number of blanks, none among them, and blanks in front of a
number are passed over.

`Timestamp.ofText?` reads the free-form dates of catalog entries: the first
layout that fits the trimmed text decides, in the order Internet timestamp, mail
date, day with time, day alone.
-/

namespace ReleaseCatalog

open Text

namespace Date

/-- A part of a layout. -/
inductive Piece where
  | year
  | month
  | day
  | hour
  | minute
  | second
  /-- The short or the full name of a month. -/
  | monthName
  /-- The short name of a month. -/
  | monthAbbreviation
  | blanks
  | mark (c : Char)
deriving DecidableEq

/-- What a layout's pieces say one after another. -/
abbrev Layout := List Piece

/-- The numbers read so far. -/
structure Parts where
  year : Int := 0
  month : Nat := 0
  day : Nat := 0
  hour : Nat := 0
  minute : Nat := 0
  second : Nat := 0

/-- A year: up to four digits, or a sign and any number of digits. -/
def signedYear : Reader Int := fun s =>
  match s with
  | '-' :: rest => (wholeNumber 1 rest).map fun (n, rest) => (-(n : Int), rest)
  | '+' :: rest => (wholeNumber 1 rest).map fun (n, rest) => ((n : Int), rest)
  | _ => (number 1 4 s).map fun (n, rest) => ((n : Int), rest)

/-- Reads one piece, and notes the number it stands for. -/
def Piece.read (piece : Piece) (parts : Parts) (s : List Char) : Option (Parts × List Char) :=
  match piece with
  | .year => (signedYear (trimStart s)).map fun (n, rest) => ({ parts with year := n }, rest)
  | .month => (number 1 2 (trimStart s)).map fun (n, rest) => ({ parts with month := n }, rest)
  | .day => (number 1 2 (trimStart s)).map fun (n, rest) => ({ parts with day := n }, rest)
  | .hour => (number 1 2 (trimStart s)).map fun (n, rest) => ({ parts with hour := n }, rest)
  | .minute => (number 1 2 (trimStart s)).map fun (n, rest) => ({ parts with minute := n }, rest)
  | .second => (number 1 2 (trimStart s)).map fun (n, rest) => ({ parts with second := n }, rest)
  | .monthName => (longMonth s).map fun (n, rest) => ({ parts with month := n }, rest)
  | .monthAbbreviation => (shortMonth s).map fun (n, rest) => ({ parts with month := n }, rest)
  | .blanks => some (parts, trimStart s)
  | .mark c => (Date.mark c s).map (parts, ·)

def Layout.readFrom (parts : Parts) : Layout → List Char → Option Parts
  | [], s => if s = [] then some parts else none
  | piece :: pieces, s =>
    match piece.read parts s with
    | some (parts, rest) => Layout.readFrom parts pieces rest
    | none => none

/-- The timestamp of a text in the layout. Numbers that the layout has no piece
for are zero. -/
def Layout.read? (layout : Layout) (s : List Char) : Option Timestamp := do
  let parts ← layout.readFrom {} s
  return ⟨← Day.of? parts.year parts.month parts.day,
    ← Clock.of? parts.hour parts.minute parts.second 0⟩

/-- Year, month and day with a mark between. -/
def dayLayout (between : Char) : Layout := [.year, .mark between, .month, .mark between, .day]

def minuteLayout : Layout := [.hour, .mark ':', .minute]

def secondLayout : Layout := minuteLayout ++ [.mark ':', .second]

/-- The layouts with a time of day, in the order in which they are tried. -/
def timestampLayouts : List Layout :=
  [dayLayout '-' ++ [.blanks] ++ secondLayout, dayLayout '-' ++ [.blanks] ++ minuteLayout,
   dayLayout '-' ++ [.mark 'T'] ++ secondLayout, dayLayout '/' ++ [.blanks] ++ secondLayout,
   dayLayout '/' ++ [.blanks] ++ minuteLayout]

/-- The layouts of a day alone, which is read as its midnight, in the order in
which they are tried. -/
def dayLayouts : List Layout :=
  [dayLayout '-', dayLayout '/', [.day, .blanks, .monthName, .blanks, .year],
   [.monthName, .blanks, .day, .mark ',', .blanks, .year],
   [.monthAbbreviation, .blanks, .day, .blanks, .year]]

/-- The timestamp of a trimmed text, by the first layout that fits. -/
def read? (s : List Char) : Option Timestamp :=
  internet? s <|> mail? s <|> timestampLayouts.findSome? (·.read? s)
    <|> dayLayouts.findSome? (·.read? s)

end Date

/-- The timestamp of a free-form date, blanks around it passed over. -/
def Timestamp.ofText? (s : String) : Option Timestamp := Date.read? (trim s.toList)

end ReleaseCatalog
