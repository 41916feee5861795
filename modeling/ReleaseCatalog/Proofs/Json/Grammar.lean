import ReleaseCatalog.Json.Fields
import ReleaseCatalog.Text.Decimal

/-!
# What is JSON

Which texts are JSON, and what each of them says. Nothing here knows the reader:
it is what the reader is held to.

* `Literal`, `Quoted`: strings. Their escapes write code units, and so half a
  surrogate pair can stand in a string that is no text then.
* `Numeral`: numbers. A fraction, an exponent or the sign of a zero makes a
  number that no field holds.
* `Spells`, `Spaced`: values, without and with white space around them.
* `Says`: whole texts.
-/

namespace ReleaseCatalog.Json

open Text

/-- The blank, the tab and the two line breaks. -/
def spaces : List Char := [' ', '\t', '\n', '\r']

/-- White space. Outside of strings it means nothing. -/
def IsSpace (s : List Char) : Prop := ∀ c ∈ s, c ∈ spaces

instance (s : List Char) : Decidable (IsSpace s) := List.decidableBAll _ s

/-! ## Strings -/

/-- The UTF-16 code units of a character: its number if 16 bits hold it, else a
surrogate pair. -/
def codeUnits (c : Char) : List Nat :=
  if c.toNat < 0x10000 then [c.toNat]
  else [0xD800 + (c.toNat - 0x10000) / 0x400, 0xDC00 + (c.toNat - 0x10000) % 0x400]

/-- The characters that stand behind a backslash for another one, each with that
one. -/
def escapes : List (Char × Char) :=
  [('"', '"'), ('\\', '\\'), ('/', '/'), ('b', '\x08'), ('f', '\x0c'), ('n', '\n'),
    ('r', '\r'), ('t', '\t')]

/-- A hexadecimal digit of either case and its value. -/
def IsHexDigit (c : Char) (n : Nat) : Prop :=
  "0123456789abcdef".toList[n]? = some c ∨ "0123456789ABCDEF".toList[n]? = some c

instance (c : Char) (n : Nat) : Decidable (IsHexDigit c n) := inferInstanceAs (Decidable (_ ∨ _))

/-- What stands between the quotes of a string, and the code units that it writes. -/
inductive Literal : List Char → List Nat → Prop where
  | empty : Literal [] []
  | plain {c : Char} {s : List Char} {units : List Nat} (hquote : c ≠ '"') (hslash : c ≠ '\\')
      (hcontrol : ¬ c.toNat < 0x20) (h : Literal s units) : Literal (c :: s) (codeUnits c ++ units)
  | escape {e c : Char} {s : List Char} {units : List Nat} (he : (e, c) ∈ escapes)
      (h : Literal s units) :
      Literal ('\\' :: e :: s) (codeUnits c ++ units)
  | unit {a b c d : Char} {i j k l : Nat} {s : List Char} {units : List Nat} (ha : IsHexDigit a i)
      (hb : IsHexDigit b j) (hc : IsHexDigit c k) (hd : IsHexDigit d l) (h : Literal s units) :
      Literal ('\\' :: 'u' :: a :: b :: c :: d :: s) ((4096 * i + 256 * j + 16 * k + l) :: units)

/-- A string, and the text that it is, if its code units are those of a text. -/
inductive Quoted : List Char → Option String → Prop where
  | text {s : List Char} {t : String} (h : Literal s (t.toList.flatMap codeUnits)) :
      Quoted ('"' :: (s ++ ['"'])) (some t)
  | noText {s : List Char} {units : List Nat} (h : Literal s units)
      (hnone : ∀ t : String, units ≠ t.toList.flatMap codeUnits) : Quoted ('"' :: (s ++ ['"'])) none

/-- A key with white space around it. -/
inductive SpacedKey : List Char → Option String → Prop where
  | spaced {before s after : List Char} {key : Option String} (hbefore : IsSpace before)
      (h : Quoted s key) (hafter : IsSpace after) : SpacedKey (before ++ (s ++ after)) key

/-! ## Numbers -/

/-- A run of digits. -/
def IsDigits (s : List Char) : Prop := s ≠ [] ∧ ∀ c ∈ s, isDigit c = true

instance (s : List Char) : Decidable (IsDigits s) :=
  have : Decidable (∀ c ∈ s, isDigit c = true) := List.decidableBAll _ s
  inferInstanceAs (Decidable (_ ∧ _))

/-- What may follow the whole part of a number first. -/
inductive Fraction : List Char → Prop where
  | none : Fraction []
  | some {s : List Char} (h : IsDigits s) : Fraction ('.' :: s)

/-- What may stand at the end of a number. -/
inductive Exponent : List Char → Prop where
  | none : Exponent []
  | some {e : Char} {sign s : List Char} (he : e = 'e' ∨ e = 'E')
      (hsign : sign = [] ∨ sign = ['+'] ∨ sign = ['-'])
      (h : IsDigits s) : Exponent (e :: (sign ++ s))

/-- A number. Its whole part has no leading zeros. -/
inductive Numeral : List Char → Json → Prop where
  | whole (n : Nat) : Numeral (digits n) (number n)
  | negative {n : Nat} (hn : n ≠ 0) : Numeral ('-' :: digits n) (number (-n))
  | negativeZero : Numeral ['-', '0'] unusable
  | broken {sign fraction exponent : List Char} (hsign : sign = [] ∨ sign = ['-']) (n : Nat)
      (hfraction : Fraction fraction) (hexponent : Exponent exponent)
        (hsome : fraction ++ exponent ≠ []) :
      Numeral (sign ++ (digits n ++ (fraction ++ exponent))) unusable

/-! ## Values -/

/-- A member with a key that is a text. -/
def keyed (m : String × Json) : Option String × Json := (some m.1, m.2)

mutual

/-- **The text of a value**, without white space around it. -/
inductive Spells : List Char → Json → Prop where
  | null : Spells "null".toList unusable
  | bool (b : Bool) : Spells (if b then "true" else "false").toList (bool b)
  | numeral {s : List Char} {v : Json} (h : Numeral s v) : Spells s v
  | text {s : List Char} {t : String} (h : Quoted s (some t)) : Spells s (text t)
  | noText {s : List Char} (h : Quoted s none) : Spells s unusable
  | noItems {w : List Char} (hw : IsSpace w) : Spells ('[' :: (w ++ [']'])) (list [])
  | items {s : List Char} {items : List Json}
      (h : SpellsItems s items) : Spells ('[' :: (s ++ [']'])) (list items)
  | noMembers {w : List Char} (hw : IsSpace w) : Spells ('{' :: (w ++ ['}'])) (record [])
  | members {s : List Char} {members : List (String × Json)}
      (h : SpellsMembers s (members.map keyed)) :
      Spells ('{' :: (s ++ ['}'])) (record members)
  | noRecord {s : List Char} {members : List (Option String × Json)} (h : SpellsMembers s members)
      (hkey : ∃ m ∈ members, m.1 = none) : Spells ('{' :: (s ++ ['}'])) unusable

/-- The text of a value with white space around it. -/
inductive Spaced : List Char → Json → Prop where
  | spaced {before s after : List Char} {v : Json} (hbefore : IsSpace before) (h : Spells s v)
      (hafter : IsSpace after) : Spaced (before ++ (s ++ after)) v

/-- The text of the items of a list, with commas between. -/
inductive SpellsItems : List Char → List Json → Prop where
  | last {s : List Char} {v : Json} (hv : Spaced s v) : SpellsItems s [v]
  | more {s rest : List Char} {v : Json} {items : List Json} (hv : Spaced s v)
      (h : SpellsItems rest items) :
      SpellsItems (s ++ ',' :: rest) (v :: items)

/-- The text of the members of a record, with commas between. A key that is no
text is `none`. -/
inductive SpellsMembers : List Char → List (Option String × Json) → Prop where
  | last {q s : List Char} {key : Option String} {v : Json} (hkey : SpacedKey q key)
      (hv : Spaced s v) :
      SpellsMembers (q ++ ':' :: s) [(key, v)]
  | more {q s rest : List Char} {key : Option String} {v : Json}
      {members : List (Option String × Json)}
      (hkey : SpacedKey q key) (hv : Spaced s v) (h : SpellsMembers rest members) :
      SpellsMembers (q ++ ':' :: (s ++ ',' :: rest)) ((key, v) :: members)

end

/-- **The text is JSON and says this.** -/
def Says (text : String) (v : Json) : Prop := Spaced text.toList v

theorem Spaced.toSays {s : List Char} {v : Json} (h : Spaced s v) {text : String}
    (htext : text.toList = s) :
    Says text v := by
  unfold Says
  rwa [htext]

end ReleaseCatalog.Json
