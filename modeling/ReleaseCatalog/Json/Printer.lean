import ReleaseCatalog.Json.Fields
import ReleaseCatalog.Text.Decimal

/-!
# Writing JSON

A value is written on one line, `compact`, or spread over lines with two blanks
of indentation for each level, `pretty`. Strings escape the quote, the backslash
and control characters below the blank; every other character stands for itself.
-/

namespace ReleaseCatalog.Json

open Text

/-- The two hexadecimal digits of a number below 256. -/
def hexPair (n : Nat) : List Char := [Nat.digitChar (n / 16), Nat.digitChar (n % 16)]

/-- How a character is written inside a string. -/
def escaped (c : Char) : List Char :=
  match c with
  | '"' => ['\\', '"']
  | '\\' => ['\\', '\\']
  | '\x08' => ['\\', 'b']
  | '\x0c' => ['\\', 'f']
  | '\n' => ['\\', 'n']
  | '\r' => ['\\', 'r']
  | '\t' => ['\\', 't']
  | c => if c.toNat < 0x20 then ['\\', 'u', '0', '0'] ++ hexPair c.toNat else [c]

def stringText (s : String) : List Char := '"' :: s.toList.flatMap escaped ++ ['"']

/-- A whole number in base ten. -/
def numberText (n : Int) : List Char :=
  if n < 0 then '-' :: digits n.natAbs else digits n.toNat

mutual

/-- A value on one line without blanks. -/
def compactText : Json → List Char
  | unusable => "null".toList
  | bool b => (if b then "true" else "false").toList
  | number n => numberText n
  | text s => stringText s
  | list items => '[' :: compactItems items ++ [']']
  | record members => '{' :: compactMembers members ++ ['}']

def compactItems : List Json → List Char
  | [] => []
  | [v] => compactText v
  | v :: w :: rest => compactText v ++ ',' :: compactItems (w :: rest)

def compactMembers : List (String × Json) → List Char
  | [] => []
  | [(k, v)] => stringText k ++ ':' :: compactText v
  | (k, v) :: m :: rest => stringText k ++ ':' :: compactText v ++ ',' :: compactMembers (m :: rest)

end

/-- A new line, indented to a level. -/
def newLine (level : Nat) : List Char := '\n' :: List.replicate (2 * level) ' '

mutual

/-- A value over several lines, the first one of which stands at the given level. -/
def prettyText (level : Nat) : Json → List Char
  | unusable => "null".toList
  | bool b => (if b then "true" else "false").toList
  | number n => numberText n
  | text s => stringText s
  | list [] => ['[', ']']
  | list items => '[' :: prettyItems (level + 1) items ++ newLine level ++ [']']
  | record [] => ['{', '}']
  | record members => '{' :: prettyMembers (level + 1) members ++ newLine level ++ ['}']

/-- The items of a list, each on a new line of the level. -/
def prettyItems (level : Nat) : List Json → List Char
  | [] => []
  | [v] => newLine level ++ prettyText level v
  | v :: w :: rest => newLine level ++ prettyText level v ++ ',' :: prettyItems level (w :: rest)

/-- The members of a record, each on a new line of the level. -/
def prettyMembers (level : Nat) : List (String × Json) → List Char
  | [] => []
  | [(k, v)] => newLine level ++ stringText k ++ ':' :: ' ' :: prettyText level v
  | (k, v) :: m :: rest =>
    newLine level ++ stringText k ++ ':' :: ' ' :: prettyText level v
      ++ ',' :: prettyMembers level (m :: rest)

end

/-- A value on one line. -/
def compact (v : Json) : String := String.ofList (compactText v)

/-- A value over several lines. -/
def pretty (v : Json) : String := String.ofList (prettyText 0 v)

end ReleaseCatalog.Json
