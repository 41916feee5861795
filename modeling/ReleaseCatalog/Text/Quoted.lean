import ReleaseCatalog.Text.VisibleTable

/-!
# Quoted text

Messages quote paths, template names and field names: a quoted text stands
between double quotes, with a backslash before a quote or backslash, short forms
for the tab, line feed, carriage return and null, and `\u` with the code point
in braces for every other character that has no visible form of its own.
-/

namespace ReleaseCatalog.Text

/-- A character that a quoted text shows as itself. -/
def isVisible (c : Char) : Bool :=
  if c.toNat < 0x7F then 0x20 ≤ c.toNat
  else !inRanges extendingRanges c && !inRanges unprintableRanges c

/-- How a character is written inside quotes. -/
def quotedChar (c : Char) : List Char :=
  match c with
  | '\x00' => ['\\', '0']
  | '\t' => ['\\', 't']
  | '\n' => ['\\', 'n']
  | '\r' => ['\\', 'r']
  | '"' => ['\\', '"']
  | '\\' => ['\\', '\\']
  | c => if isVisible c then [c]
    else ['\\', 'u', '{'] ++ Nat.toDigits 16 c.toNat ++ ['}']

def quoted (s : String) : String :=
  String.ofList (['"'] ++ s.toList.flatMap quotedChar ++ ['"'])

/-- Texts between quotes, one after the other with a comma between. -/
def quotedList (texts : List String) : String := ", ".intercalate (texts.map quoted)

end ReleaseCatalog.Text
