/-!
# White space

`isBlank` is the white space property of the Unicode standard: twenty-five characters,
among them the no-break space and the ideographic space. Request fields, version
segments, dates, checksum fields and template placeholders all use this one class.

* `inRanges` is membership in a property of characters that the standard lists
  as ranges of code points; every such table of this folder is read through it;
* `trimStart` and `trim` cut blanks from the front, or from both ends.
-/

namespace ReleaseCatalog.Text

/-- A closed range of code points, first and last. -/
abbrev CodeRange := Nat × Nat

/-- The code point of `c` lies in one of the ranges. -/
def inRanges (table : List CodeRange) (c : Char) : Bool :=
  table.any fun r => r.1 ≤ c.toNat && c.toNat ≤ r.2

theorem inRanges_iff {table : List CodeRange} {c : Char} :
    inRanges table c = true ↔ ∃ r ∈ table, r.1 ≤ c.toNat ∧ c.toNat ≤ r.2 := by
  simp [inRanges]

/-- The code points with the white space property. -/
def blankRanges : List CodeRange :=
  [(0x9, 0xD), (0x20, 0x20), (0x85, 0x85), (0xA0, 0xA0), (0x1680, 0x1680), (0x2000, 0x200A),
   (0x2028, 0x2029), (0x202F, 0x202F), (0x205F, 0x205F), (0x3000, 0x3000)]

def isBlank (c : Char) : Bool := inRanges blankRanges c

/-- What is left of a text without the blanks in front. -/
def trimStart (s : List Char) : List Char := s.dropWhile isBlank

/-- What is left of a text without the blanks at its end. -/
def trimEnd (s : List Char) : List Char := (s.reverse.dropWhile isBlank).reverse

/-- What is left of a text without the blanks at both ends. -/
def trim (s : List Char) : List Char := trimEnd (trimStart s)

/-- A string without the blanks at both ends. -/
def trimmed (s : String) : String := String.ofList (trim s.toList)

@[simp] theorem toList_trimmed (s : String) : (trimmed s).toList = trim s.toList := by
  simp [trimmed]

end ReleaseCatalog.Text
