import ReleaseCatalog.Checksum
import ReleaseCatalog.Disk.Machine
import ReleaseCatalog.Tarball

/-!
# Checking files against the catalog

The file of a tarball is intact if its digest is the one that the catalog keeps.

* `Algorithm.digestReads`: the digest of a content that reads put into a buffer;
* `fileDigest`: the digest of a file, read in pieces;
* `Tarball.verify`: fails unless the file is intact. Where the catalog keeps no
  checksum, there is nothing to compare.
-/

namespace ReleaseCatalog

open Digest

/-- What a buffer holds after a read: what was read stands at its front, and
behind that what it held there before. -/
def refilled (buffer piece : List UInt8) : List UInt8 := piece ++ buffer.drop piece.length

/-- The hasher after it takes what one read after the other puts into the buffer, up
to a read that gives nothing. Of the buffer it takes as many bytes as were read. -/
def Digest.Hasher.takeReads {H : BlockHash} (h : Hasher H) (buffer : List UInt8) :
    List (List UInt8) → Hasher H
  | [] => h
  | piece :: reads =>
    if piece = [] then h
    else
      let buffer := refilled buffer piece
      (h.update (buffer.take piece.length)).takeReads buffer reads

/-- The digest of a content that reads put into a buffer, in hexadecimal digits. -/
def Algorithm.digestReads (a : Algorithm) (buffer : List UInt8) (reads : List (List UInt8)) :
    String :=
  hex ((Hasher.start a.function).takeReads buffer reads).finish

/-- How many bytes of a file are read at once. -/
def pieceSize : Nat := 64 * 1024

/-- A content in pieces as it is read, the last one as short as it may be. -/
def piecesOf (bytes : List UInt8) : List (List UInt8) :=
  if _h : bytes = [] then [] else bytes.take pieceSize :: piecesOf (bytes.drop pieceSize)
termination_by bytes.length
decreasing_by
  have := List.length_pos_iff.2 _h
  simp only [List.length_drop, pieceSize]
  omega

/-- The digest of a file. The read behind its last piece gives nothing. -/
def fileDigest (a : Algorithm) (path : Path) : Operation Machine String := do
  return a.digestReads (List.replicate pieceSize 0)
    (piecesOf (← Operation.see Disk.read path) ++ [[]])

/-- Fails unless the file is the tarball's. -/
def Tarball.verify (t : Tarball) (path : Path) : Operation Machine Unit := do
  if t.checksum = "" then
    Operation.log (.nothingToVerify t.name)
  else
    let expected ← Operation.ofExcept (Checksum.ofText t.checksum)
    let found ← fileDigest expected.algorithm path
    if expected.agreesWith found then
      Operation.log (.verified expected.algorithm.label path)
    else
      Operation.fail (.checksumMismatch expected.digest found)

end ReleaseCatalog
