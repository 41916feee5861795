import Mathlib.Analysis.Complex.Trigonometric
import Mathlib.Data.Nat.Find
import Mathlib.Data.Nat.Nth
import Mathlib.Data.Nat.Prime.Defs
import ReleaseCatalog.Checksum

/-!
# The digests as the standards define them

The four functions on bit vectors, with the words of a padded message counted
through and each later word of a schedule given by earlier ones. The constants
are what the standards take them from: roots of prime numbers and sines. Nothing
here is made to be run.

* `padded`: a message with its padding, which has the least number of zeros.
* `BlockFunction`, `BlockFunction.digest`: blocks of sixteen words, taken into a
  state one after another.
* `Sha2`, `Sha1`, `Md5`: how each function takes a block.
* `digest`: the digest of a message.
-/

noncomputable section

namespace ReleaseCatalog.Digest.Standard

/-! ## Messages -/

/-- The least number of zeros with which a message of this length, the byte with
the one bit, the zeros and the length fill whole blocks. -/
def zeros (blockSize lengthSize length : Nat) : Nat :=
  ((List.range blockSize).find? fun k => blockSize ∣ length + 1 + k + lengthSize).getD 0

/-- A message with its padding: a one bit, zeros, and its length in bits. -/
def padded (blockSize lengthSize : Nat) (lengthField : Nat → List UInt8) (message : List UInt8) :
    List UInt8 :=
  message ++ ([0x80] ++ List.replicate (zeros blockSize lengthSize message.length) 0 ++
    lengthField (8 * message.length))

/-- The word at a place of a message. -/
def word {w : Nat} (value : List UInt8 → Nat) (bytes : List UInt8) (place : Nat) : BitVec w :=
  BitVec.ofNat w (value ((bytes.drop (place * (w / 8))).take (w / 8)))

/-- How a function takes the blocks of a message into its state, with words of
`w` bits. -/
structure BlockFunction (w : Nat) where
  State : Type
  start : State
  /-- The state after a block with these words, of which the first sixteen count. -/
  compress : State → (Nat → BitVec w) → State
  /-- The number that the bytes of a word write. -/
  value : List UInt8 → Nat
  lengthSize : Nat
  lengthField : Nat → List UInt8
  output : State → List UInt8

/-- The digest of a message, which is padded to whole blocks of sixteen words. -/
def BlockFunction.digest {w : Nat} (F : BlockFunction w) (message : List UInt8) : List UInt8 :=
  let bytes := padded (16 * (w / 8)) F.lengthSize F.lengthField message
  F.output ((List.range (bytes.length / (16 * (w / 8)))).foldl
    (fun state i => F.compress state fun t => word F.value bytes (16 * i + t)) F.start)

/-! ## SHA-256 and SHA-512 -/

/-- The first `w` bits of the fractional part of the `k`-th root of a number. -/
def rootBits (k w n : Nat) : BitVec w :=
  BitVec.ofNat w (Nat.findGreatest (fun r => r ^ k ≤ n * 2 ^ (k * w)) (n * 2 ^ w))

namespace Sha2

/-- What one of the two functions mixes words with, and the number of its rounds. -/
structure Mixing (w : Nat) where
  bigSigma0 : BitVec w → BitVec w
  bigSigma1 : BitVec w → BitVec w
  smallSigma0 : BitVec w → BitVec w
  smallSigma1 : BitVec w → BitVec w
  rounds : Nat

variable {w : Nat} (S : Mixing w)

def choose (x y z : BitVec w) : BitVec w := (x &&& y) ^^^ (~~~x &&& z)

def majority (x y z : BitVec w) : BitVec w := (x &&& y) ^^^ (x &&& z) ^^^ (y &&& z)

/-- The constant of a round: from the cube root of the prime number of that number. -/
def constant (w t : Nat) : BitVec w := rootBits 3 w (Nat.nth Nat.Prime t)

/-- The message schedule. -/
def schedule (M : Nat → BitVec w) (t : Nat) : BitVec w :=
  if t < 16 then M t
  else S.smallSigma1 (schedule M (t - 2)) + schedule M (t - 7) +
    S.smallSigma0 (schedule M (t - 15)) + schedule M (t - 16)

def round (W : Nat → BitVec w) (s : EightWords (BitVec w)) (t : Nat) : EightWords (BitVec w) :=
  let t1 := s.h + S.bigSigma1 s.e + choose s.e s.f s.g + constant w t + W t
  let t2 := S.bigSigma0 s.a + majority s.a s.b s.c
  ⟨t1 + t2, s.a, s.b, s.c, s.d + t1, s.e, s.f, s.g⟩

def compress (H : EightWords (BitVec w)) (M : Nat → BitVec w) : EightWords (BitVec w) :=
  let s := (List.range S.rounds).foldl (round S (schedule S M)) H
  ⟨H.a + s.a, H.b + s.b, H.c + s.c, H.d + s.d, H.e + s.e, H.f + s.f, H.g + s.g, H.h + s.h⟩

/-- The function starts with the square roots of the first eight prime numbers. -/
def function : BlockFunction w where
  State := EightWords (BitVec w)
  start :=
    let root := fun i => rootBits 2 w (Nat.nth Nat.Prime i)
    ⟨root 0, root 1, root 2, root 3, root 4, root 5, root 6, root 7⟩
  compress := compress S
  value := ofBigEndian
  lengthSize := 2 * (w / 8)
  lengthField := bigEndian (2 * (w / 8))
  output s := [s.a, s.b, s.c, s.d, s.e, s.f, s.g, s.h].flatMap fun x => bigEndian (w / 8) x.toNat

def sha256 : Mixing 32 where
  bigSigma0 x := x.rotateRight 2 ^^^ x.rotateRight 13 ^^^ x.rotateRight 22
  bigSigma1 x := x.rotateRight 6 ^^^ x.rotateRight 11 ^^^ x.rotateRight 25
  smallSigma0 x := x.rotateRight 7 ^^^ x.rotateRight 18 ^^^ x >>> 3
  smallSigma1 x := x.rotateRight 17 ^^^ x.rotateRight 19 ^^^ x >>> 10
  rounds := 64

def sha512 : Mixing 64 where
  bigSigma0 x := x.rotateRight 28 ^^^ x.rotateRight 34 ^^^ x.rotateRight 39
  bigSigma1 x := x.rotateRight 14 ^^^ x.rotateRight 18 ^^^ x.rotateRight 41
  smallSigma0 x := x.rotateRight 1 ^^^ x.rotateRight 8 ^^^ x >>> 7
  smallSigma1 x := x.rotateRight 19 ^^^ x.rotateRight 61 ^^^ x >>> 6
  rounds := 80

end Sha2

/-! ## SHA-1 -/

namespace Sha1

structure State where
  a : BitVec 32
  b : BitVec 32
  c : BitVec 32
  d : BitVec 32
  e : BitVec 32

/-- The function of a round. -/
def mix (t : Nat) (x y z : BitVec 32) : BitVec 32 :=
  if t < 20 then (x &&& y) ^^^ (~~~x &&& z)
  else if t < 40 then x ^^^ y ^^^ z
  else if t < 60 then (x &&& y) ^^^ (x &&& z) ^^^ (y &&& z)
  else x ^^^ y ^^^ z

/-- The constant of a round. -/
def constant (t : Nat) : BitVec 32 :=
  if t < 20 then 0x5a827999
    else if t < 40 then 0x6ed9eba1 else if t < 60 then 0x8f1bbcdc else 0xca62c1d6

/-- The message schedule. -/
def schedule (M : Nat → BitVec 32) (t : Nat) : BitVec 32 :=
  if t < 16 then M t
  else (schedule M (t - 3) ^^^ schedule M (t - 8) ^^^ schedule M (t - 14) ^^^
    schedule M (t - 16)).rotateLeft 1

def round (W : Nat → BitVec 32) (s : State) (t : Nat) : State :=
  ⟨s.a.rotateLeft 5 + mix t s.b s.c s.d + s.e + constant t + W t, s.a, s.b.rotateLeft 30, s.c, s.d⟩

def compress (H : State) (M : Nat → BitVec 32) : State :=
  let s := (List.range 80).foldl (round (schedule M)) H
  ⟨H.a + s.a, H.b + s.b, H.c + s.c, H.d + s.d, H.e + s.e⟩

def function : BlockFunction 32 where
  State := State
  start := ⟨0x67452301, 0xefcdab89, 0x98badcfe, 0x10325476, 0xc3d2e1f0⟩
  compress := compress
  value := ofBigEndian
  lengthSize := 8
  lengthField := bigEndian 8
  output s := [s.a, s.b, s.c, s.d, s.e].flatMap fun x => bigEndian 4 x.toNat

end Sha1

/-! ## MD5 -/

namespace Md5

/-- The four registers `A`, `B`, `C` and `D`, by their numbers. -/
abbrev Registers := Fin 4 → BitVec 32

/-- The function of a group of sixteen operations. -/
def mix (group : Nat) (x y z : BitVec 32) : BitVec 32 :=
  match group with
  | 0 => (x &&& y) ||| (~~~x &&& z)
  | 1 => (x &&& z) ||| (y &&& ~~~z)
  | 2 => x ^^^ y ^^^ z
  | _ => y ^^^ (x ||| ~~~z)

/-- The element of the table with a number, counted from one: the whole part of
a multiple of a sine. -/
def sine (i : Nat) : BitVec 32 := BitVec.ofNat 32 ⌊4294967296 * |Real.sin i|⌋₊

/-- For each operation the word of the block that it takes, and how far it rotates. -/
def operations : List (Nat × Nat) :=
  [(0, 7), (1, 12), (2, 17), (3, 22), (4, 7), (5, 12), (6, 17), (7, 22),
   (8, 7), (9, 12), (10, 17), (11, 22), (12, 7), (13, 12), (14, 17), (15, 22),
   (1, 5), (6, 9), (11, 14), (0, 20), (5, 5), (10, 9), (15, 14), (4, 20),
   (9, 5), (14, 9), (3, 14), (8, 20), (13, 5), (2, 9), (7, 14), (12, 20),
   (5, 4), (8, 11), (11, 16), (14, 23), (1, 4), (4, 11), (7, 16), (10, 23),
   (13, 4), (0, 11), (3, 16), (6, 23), (9, 4), (12, 11), (15, 16), (2, 23),
   (0, 6), (7, 10), (14, 15), (5, 21), (12, 6), (3, 10), (10, 15), (1, 21),
   (8, 6), (15, 10), (6, 15), (13, 21), (4, 6), (11, 10), (2, 15), (9, 21)]

/-- The register that an operation changes. They take turns: the first operation
changes `A`, the next one `D`, then `C` and `B`. -/
def target (j : Nat) : Fin 4 := ⟨3 * j % 4, Nat.mod_lt _ (by decide)⟩

/-- An operation by its number. It reads the other three registers in their
circular order. -/
def operate (X : Nat → BitVec 32) (r : Registers) (j : Nat) : Registers :=
  let a := target j
  let (k, s) := operations[j]?.getD (0, 0)
  Function.update r a
    (r (a + 1) + (r a + mix (j / 16) (r (a + 1)) (r (a + 2)) (r (a + 3)) + X k +
      sine (j + 1)).rotateLeft s)

def compress (r : Registers) (X : Nat → BitVec 32) : Registers :=
  let s := (List.range 64).foldl (operate X) r
  fun i => r i + s i

def function : BlockFunction 32 where
  State := Registers
  start := ![0x67452301, 0xefcdab89, 0x98badcfe, 0x10325476]
  compress := compress
  value := ofLittleEndian
  lengthSize := 8
  lengthField := littleEndian 8
  output r := [r 0, r 1, r 2, r 3].flatMap fun x => littleEndian 4 x.toNat

end Md5

/-- **The standard digest of a message.** -/
def digest : Algorithm → List UInt8 → List UInt8
  | .md5 => Md5.function.digest
  | .sha1 => Sha1.function.digest
  | .sha256 => (Sha2.function Sha2.sha256).digest
  | .sha512 => (Sha2.function Sha2.sha512).digest

end ReleaseCatalog.Digest.Standard

end
