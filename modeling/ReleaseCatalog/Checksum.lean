import ReleaseCatalog.Digest.Md5
import ReleaseCatalog.Digest.Sha1
import ReleaseCatalog.Digest.Sha2
import ReleaseCatalog.Error
import ReleaseCatalog.Text.Blank
import ReleaseCatalog.Text.Search

/-!
# Checksums

A checksum field names an algorithm and a digest with a colon between.
`Checksum.ofText` finds it anywhere in a text; `Algorithm.digest` computes the
digest of a content that comes in pieces.
-/

namespace ReleaseCatalog

open Text Digest

inductive Algorithm where
  | md5
  | sha1
  | sha256
  | sha512
deriving DecidableEq

namespace Algorithm

def all : List Algorithm := [md5, sha1, sha256, sha512]

/-- The label of the algorithm in a checksum field. -/
def label : Algorithm → String
  | md5 => "MD5"
  | sha1 => "SHA1"
  | sha256 => "SHA256"
  | sha512 => "SHA512"

def ofLabel (s : String) : Except Error Algorithm :=
  match all.find? (·.label = s) with
  | some a => .ok a
  | none => .error (.checksumFormat s)

def function : Algorithm → BlockHash
  | md5 => Digest.md5
  | sha1 => Digest.sha1
  | sha256 => Digest.sha256
  | sha512 => Digest.sha512

/-- The digest of a content that comes in pieces, in hexadecimal digits. -/
def digest (a : Algorithm) (pieces : List (List UInt8)) : String :=
  hex (pieces.foldl Hasher.update (Hasher.start a.function)).finish

end Algorithm

/-- A digest and the algorithm that it was computed with. -/
structure Checksum where
  algorithm : Algorithm
  digest : String
deriving DecidableEq

namespace Checksum

/-- Label and digest with a colon between. -/
def text (c : Checksum) : String := c.algorithm.label ++ ":" ++ c.digest

/-- The checksum of an algorithm's label at the front of a text. Blanks may
stand around the colon, and the digest ends before a blank. -/
def labelled? (s : List Char) (a : Algorithm) : Option Checksum := do
  let s ← after? a.label.toList s
  let s ← after? [':'] (trimStart s)
  let digest := (trimStart s).takeWhile fun c => !isBlank c
  if digest = [] then none else some ⟨a, String.ofList digest⟩

/-- The checksum at the front of a text. -/
def atFront? (s : List Char) : Option Checksum := Algorithm.all.findSome? (labelled? s)

/-- The leftmost checksum of a text. -/
def ofText (s : String) : Except Error Checksum :=
  match leftmost atFront? s.toList with
  | some c => .ok c
  | none => .error (.checksumFormat s)

/-- The digest is the given one, upper and lower case letters taken for the same. -/
def agreesWith (c : Checksum) (digest : String) : Bool :=
  digest.toList.map Char.toLower = c.digest.toList.map Char.toLower

end Checksum

end ReleaseCatalog
