import ReleaseCatalog.Json.Fields
import ReleaseCatalog.Text.Decimal
import ReleaseCatalog.Text.Utf8

/-!
# The tokens of JSON

`Token.scan?` cuts a text into brackets, commas, colons, strings and plain
values. Ill-formed bytes may stand inside a string, which then is no text;
anywhere else they end the reading.
-/

namespace ReleaseCatalog.Json

open Text Text.Utf8

/-- A part of a JSON text. -/
inductive Token where
  | listOpen
  | listClose
  | recordOpen
  | recordClose
  | comma
  | colon
  /-- A string, with the text it stands for unless there is none. -/
  | string (s : Option String)
  /-- A truth value, a number or `null`. -/
  | plain (v : Json)

def hexValue? (c : Char) : Option Nat :=
  if '0' ≤ c ∧ c ≤ '9' then some (c.toNat - '0'.toNat)
  else if 'a' ≤ c ∧ c ≤ 'f' then some (c.toNat - 'a'.toNat + 10)
  else if 'A' ≤ c ∧ c ≤ 'F' then some (c.toNat - 'A'.toNat + 10)
  else none

/-- The code unit that four hexadecimal digits write. -/
def unit? (a b c d : Char) : Option Nat := do
  return 4096 * (← hexValue? a) + 256 * (← hexValue? b) + 16 * (← hexValue? c) + (← hexValue? d)

/-- The character that a single character after a backslash stands for. -/
def shortEscape? (c : Char) : Option Char :=
  match c with
  | '"' => some '"'
  | '\\' => some '\\'
  | '/' => some '/'
  | 'b' => some '\x08'
  | 'f' => some '\x0c'
  | 'n' => some '\n'
  | 'r' => some '\r'
  | 't' => some '\t'
  | _ => none

/-- A part of a string literal: a character, a code unit, or a byte that starts
no character. -/
inductive Part where
  | char (c : Char)
  | unit (n : Nat)
  | stray

/-- The parts of a string literal up to the closing quote, and the text after it. -/
def scanString : List Symbol → Option (List Part × List Symbol)
  | some '"' :: rest => some ([], rest)
  | some '\\' :: some 'u' :: some a :: some b :: some c :: some d :: rest =>
    match unit? a b c d, scanString rest with
    | some n, some (parts, rest) => some (.unit n :: parts, rest)
    | _, _ => none
  | some '\\' :: some e :: rest =>
    match shortEscape? e, scanString rest with
    | some c, some (parts, rest) => some (.char c :: parts, rest)
    | _, _ => none
  | some c :: rest =>
    if c = '\\' ∨ c.toNat < 0x20 then none
    else (scanString rest).map fun (parts, rest) => (.char c :: parts, rest)
  | none :: rest => (scanString rest).map fun (parts, rest) => (.stray :: parts, rest)
  | [] => none

/-- The text that the parts of a string literal stand for. Two code units make
one character where they are a surrogate pair; a surrogate without its partner
makes none. -/
def partsText? : List Part → Option (List Char)
  | [] => some []
  | .char c :: rest => (partsText? rest).map (c :: ·)
  | .stray :: _ => none
  | .unit n :: rest =>
    if n < 0xD800 ∨ 0xDFFF < n then (partsText? rest).map (Char.ofNat n :: ·)
    else
      match rest with
      | .unit m :: rest =>
        if n < 0xDC00 ∧ 0xDC00 ≤ m ∧ m ≤ 0xDFFF then
          (partsText? rest).map (Char.ofNat (0x10000 + 1024 * (n - 0xD800) + (m - 0xDC00)) :: ·)
        else none
      | _ => none

/-- The run of ASCII digits at the front of a text, and the text after it. -/
def scanDigits : List Symbol → List Char × List Symbol
  | some c :: rest =>
    if isDigit c then
      let (ds, rest) := scanDigits rest
      (c :: ds, rest)
    else ([], some c :: rest)
  | s => ([], s)

/-- What follows the whole part of a number: an optional fraction, then an
optional exponent. Gives whether there was either, and the text after it. -/
def scanFraction (s : List Symbol) : Option (Bool × List Symbol) := do
  let (fraction, s) ← match s with
    | some '.' :: rest =>
      let (ds, rest) := scanDigits rest
      if ds = [] then none else some (true, rest)
    | _ => some (false, s)
  match s with
  | some 'e' :: rest | some 'E' :: rest =>
    let unsigned := match rest with
      | some '+' :: rest | some '-' :: rest => rest
      | _ => rest
    let (ds, rest) := scanDigits unsigned
    if ds = [] then none else some (true, rest)
  | _ => some (fraction, s)

/-- A number without its sign, and the text after it. The whole part has no
leading zero. Minus zero is not a whole number. -/
def scanNumber (negative : Bool) (s : List Symbol) : Option (Json × List Symbol) := do
  let (ds, s) := scanDigits s
  if ds = [] ∨ (ds.head? = some '0' ∧ 1 < ds.length) then none
  let n := natOfDigits ds
  let (more, s) ← scanFraction s
  if more || (negative && n == 0) then return (unusable, s)
  return (number (if negative then -n else n), s)

/-- The token at the front of a text, none if blanks or nothing stand there, and
the text after it. -/
def scanToken (c : Symbol) (rest : List Symbol) : Option (Option Token × List Symbol) :=
  match c, rest with
  | some ' ', _ | some '\t', _ | some '\n', _ | some '\r', _ => some (none, rest)
  | some '[', _ => some (some .listOpen, rest)
  | some ']', _ => some (some .listClose, rest)
  | some '{', _ => some (some .recordOpen, rest)
  | some '}', _ => some (some .recordClose, rest)
  | some ',', _ => some (some .comma, rest)
  | some ':', _ => some (some .colon, rest)
  | some '"', _ =>
    (scanString rest).map fun (parts, rest) =>
      (some (.string ((partsText? parts).map String.ofList)), rest)
  | some 't', some 'r' :: some 'u' :: some 'e' :: rest => some (some (.plain (bool true)), rest)
  | some 'f', some 'a' :: some 'l' :: some 's' :: some 'e' :: rest =>
    some (some (.plain (bool false)), rest)
  | some 'n', some 'u' :: some 'l' :: some 'l' :: rest => some (some (.plain unusable), rest)
  | some '-', _ => (scanNumber true rest).map fun (v, rest) => (some (.plain v), rest)
  | some d, _ =>
    if isDigit d then
      (scanNumber false (some d :: rest)).map fun (v, rest) => (some (.plain v), rest)
    else none
  | none, _ => none

/-- The tokens of a text, read in at most `fuel` steps. -/
def scanFrom (fuel : Nat) (s : List Symbol) : Option (List Token) :=
  match fuel, s with
  | _, [] => some []
  | 0, _ => none
  | fuel + 1, c :: rest =>
    match scanToken c rest with
    | some (token, rest) => (scanFrom fuel rest).map (token.toList ++ ·)
    | none => none

/-- The tokens of a text. Each step takes at least one symbol, so there are no
more steps than symbols. -/
def Token.scan? (s : List Symbol) : Option (List Token) := scanFrom s.length s

end ReleaseCatalog.Json
