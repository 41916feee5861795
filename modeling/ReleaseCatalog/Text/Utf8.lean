/-!
# UTF-8

Files hold bytes. `encode` writes a text as bytes. Reading is a matter of
degree: `symbols` takes bytes apart into characters and stray bytes that start
no character, so that a reader can pass over ill-formed bytes where it does not
need a text, and `decode?` insists on characters throughout.
-/

namespace ReleaseCatalog.Text.Utf8

/-- The bytes of a text. -/
def encode (s : List Char) : List UInt8 := s.flatMap String.utf8EncodeChar

def bytes (s : String) : List UInt8 := encode s.toList

/-- The character that the bytes start with, if they start with one in
well-formed shape. -/
def first? (b : List UInt8) : Option Char := (b.take 4).toByteArray.utf8DecodeChar? 0

/-- A character, or `none` for a byte that starts no character. -/
abbrev Symbol := Option Char

/-- Bytes as characters and stray bytes. -/
def symbols (b : List UInt8) : List Symbol :=
  match b with
  | [] => []
  | byte :: rest =>
    if byte < 0x80 then some (Char.ofNat byte.toNat) :: symbols rest
    else
      match first? (byte :: rest) with
      | some c => some c :: symbols (rest.drop (c.utf8Size - 1))
      | none => none :: symbols rest
termination_by b.length
decreasing_by all_goals simp_wf; try omega

/-- The text that the bytes stand for, if they are well-formed throughout. -/
def decode? (b : List UInt8) : Option (List Char) := (symbols b).mapM id

end ReleaseCatalog.Text.Utf8
