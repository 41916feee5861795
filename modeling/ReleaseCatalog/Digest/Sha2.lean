import ReleaseCatalog.Digest.Block

/-!
# SHA-256 and SHA-512

The two functions of the Secure Hash Standard differ in the width of their
words, in the number of rounds and in a few amounts of rotation. `Sha2` holds
those, and the function is made from them once.
-/

namespace ReleaseCatalog.Digest

/-- The eight words of the state. -/
structure EightWords (W : Type) where
  a : W
  b : W
  c : W
  d : W
  e : W
  f : W
  g : W
  h : W

/-- What one of the functions is made of, for words of type `W`. -/
structure Sha2 (W : Type) where
  /-- The size of a word in bytes. -/
  wordSize : Nat
  wordSize_pos : 0 < wordSize
  ofNat : Nat → W
  toNat : W → Nat
  add : W → W → W
  and : W → W → W
  xor : W → W → W
  not : W → W
  rotateRight : Nat → W → W
  shiftRight : Nat → W → W
  /-- Amounts of rotation for the state words `a` and `e`. -/
  stateRotations : (Nat × Nat × Nat) × (Nat × Nat × Nat)
  /-- Two amounts of rotation and one of shift, for each of the two words that a
  later word of the message schedule is mixed from. -/
  scheduleRotations : (Nat × Nat × Nat) × (Nat × Nat × Nat)
  start : EightWords W
  /-- The constants of the rounds, one each. -/
  constants : List W

namespace Sha2

variable {W : Type} (S : Sha2 W)

/-- The sum of three rotations of a word. -/
def rotations (r : Nat × Nat × Nat) (x : W) : W :=
  S.xor (S.xor (S.rotateRight r.1 x) (S.rotateRight r.2.1 x)) (S.rotateRight r.2.2 x)

/-- The sum of two rotations and a shift of a word. -/
def mixed (r : Nat × Nat × Nat) (x : W) : W :=
  S.xor (S.xor (S.rotateRight r.1 x) (S.rotateRight r.2.1 x)) (S.shiftRight r.2.2 x)

/-- Each bit of `f` or of `g`, as `e` says. -/
def choose (e f g : W) : W := S.xor (S.and e f) (S.and (S.not e) g)

/-- Each bit as at least two of the three words have it. -/
def majority (a b c : W) : W := S.xor (S.xor (S.and a b) (S.and a c)) (S.and b c)

/-- The state after a round with its constant and its word of the message schedule. -/
def round (s : EightWords W) (constant word : W) : EightWords W :=
  let t1 := S.add (S.add (S.add (S.add s.h (S.rotations S.stateRotations.2 s.e))
    (S.choose s.e s.f s.g)) constant) word
  let t2 := S.add (S.rotations S.stateRotations.1 s.a) (S.majority s.a s.b s.c)
  ⟨S.add t1 t2, s.a, s.b, s.c, S.add s.d t1, s.e, s.f, s.g⟩

/-- The next sixteen words of the message schedule less the first: the word that
follows the sixteen is mixed from four of them. -/
def advance (window : List W) : List W :=
  match window with
  | [w0, w1, w2, w3, w4, w5, w6, w7, w8, w9, w10, w11, w12, w13, w14, w15] =>
    [w1, w2, w3, w4, w5, w6, w7, w8, w9, w10, w11, w12, w13, w14, w15,
     S.add (S.add (S.mixed S.scheduleRotations.2 w14) w9)
       (S.add (S.mixed S.scheduleRotations.1 w1) w0)]
  | other => other

/-- The state after all rounds, each of which takes the front word of the schedule. -/
def rounds (s : EightWords W) (window : List W) : List W → EightWords W
  | [] => s
  | constant :: rest =>
    rounds (S.round s constant (window.head?.getD constant)) (S.advance window) rest

def addWords (s t : EightWords W) : EightWords W :=
  ⟨S.add s.a t.a, S.add s.b t.b, S.add s.c t.c, S.add s.d t.d, S.add s.e t.e, S.add s.f t.f,
   S.add s.g t.g, S.add s.h t.h⟩

def words (block : List UInt8) : List W :=
  (blocks S.wordSize S.wordSize_pos block).map fun b => S.ofNat (ofBigEndian b)

def blockHash : BlockHash where
  State := EightWords W
  start := S.start
  blockSize := 16 * S.wordSize
  blockSize_pos := Nat.mul_pos (by decide) S.wordSize_pos
  absorb s block := S.addWords s (S.rounds s (S.words block) S.constants)
  lengthSize := 2 * S.wordSize
  lengthField := bigEndian (2 * S.wordSize)
  output s :=
    [s.a, s.b, s.c, s.d, s.e, s.f, s.g, s.h].flatMap fun w => bigEndian S.wordSize (S.toNat w)

end Sha2

def sha256Parts : Sha2 UInt32 where
  wordSize := 4
  wordSize_pos := four_pos
  ofNat := UInt32.ofNat
  toNat := UInt32.toNat
  add := (· + ·)
  and := (· &&& ·)
  xor := (· ^^^ ·)
  not := (~~~ ·)
  rotateRight n x := (x >>> UInt32.ofNat n) ||| (x <<< UInt32.ofNat (32 - n))
  shiftRight n x := x >>> UInt32.ofNat n
  stateRotations := ((2, 13, 22), (6, 11, 25))
  scheduleRotations := ((7, 18, 3), (17, 19, 10))
  start :=
    ⟨0x6a09e667, 0xbb67ae85, 0x3c6ef372, 0xa54ff53a, 0x510e527f, 0x9b05688c, 0x1f83d9ab, 0x5be0cd19⟩
  constants :=
    [0x428a2f98, 0x71374491, 0xb5c0fbcf, 0xe9b5dba5, 0x3956c25b, 0x59f111f1, 0x923f82a4, 0xab1c5ed5,
   0xd807aa98, 0x12835b01, 0x243185be, 0x550c7dc3, 0x72be5d74, 0x80deb1fe, 0x9bdc06a7, 0xc19bf174,
   0xe49b69c1, 0xefbe4786, 0x0fc19dc6, 0x240ca1cc, 0x2de92c6f, 0x4a7484aa, 0x5cb0a9dc, 0x76f988da,
   0x983e5152, 0xa831c66d, 0xb00327c8, 0xbf597fc7, 0xc6e00bf3, 0xd5a79147, 0x06ca6351, 0x14292967,
   0x27b70a85, 0x2e1b2138, 0x4d2c6dfc, 0x53380d13, 0x650a7354, 0x766a0abb, 0x81c2c92e, 0x92722c85,
   0xa2bfe8a1, 0xa81a664b, 0xc24b8b70, 0xc76c51a3, 0xd192e819, 0xd6990624, 0xf40e3585, 0x106aa070,
   0x19a4c116, 0x1e376c08, 0x2748774c, 0x34b0bcb5, 0x391c0cb3, 0x4ed8aa4a, 0x5b9cca4f, 0x682e6ff3,
   0x748f82ee, 0x78a5636f, 0x84c87814, 0x8cc70208, 0x90befffa, 0xa4506ceb, 0xbef9a3f7, 0xc67178f2]

def sha512Parts : Sha2 UInt64 where
  wordSize := 8
  wordSize_pos := by decide
  ofNat := UInt64.ofNat
  toNat := UInt64.toNat
  add := (· + ·)
  and := (· &&& ·)
  xor := (· ^^^ ·)
  not := (~~~ ·)
  rotateRight n x := (x >>> UInt64.ofNat n) ||| (x <<< UInt64.ofNat (64 - n))
  shiftRight n x := x >>> UInt64.ofNat n
  stateRotations := ((28, 34, 39), (14, 18, 41))
  scheduleRotations := ((1, 8, 7), (19, 61, 6))
  start := ⟨0x6a09e667f3bcc908, 0xbb67ae8584caa73b, 0x3c6ef372fe94f82b, 0xa54ff53a5f1d36f1,
   0x510e527fade682d1, 0x9b05688c2b3e6c1f, 0x1f83d9abfb41bd6b, 0x5be0cd19137e2179⟩
  constants :=
    [0x428a2f98d728ae22, 0x7137449123ef65cd, 0xb5c0fbcfec4d3b2f, 0xe9b5dba58189dbbc,
   0x3956c25bf348b538, 0x59f111f1b605d019, 0x923f82a4af194f9b, 0xab1c5ed5da6d8118,
   0xd807aa98a3030242, 0x12835b0145706fbe, 0x243185be4ee4b28c, 0x550c7dc3d5ffb4e2,
   0x72be5d74f27b896f, 0x80deb1fe3b1696b1, 0x9bdc06a725c71235, 0xc19bf174cf692694,
   0xe49b69c19ef14ad2, 0xefbe4786384f25e3, 0x0fc19dc68b8cd5b5, 0x240ca1cc77ac9c65,
   0x2de92c6f592b0275, 0x4a7484aa6ea6e483, 0x5cb0a9dcbd41fbd4, 0x76f988da831153b5,
   0x983e5152ee66dfab, 0xa831c66d2db43210, 0xb00327c898fb213f, 0xbf597fc7beef0ee4,
   0xc6e00bf33da88fc2, 0xd5a79147930aa725, 0x06ca6351e003826f, 0x142929670a0e6e70,
   0x27b70a8546d22ffc, 0x2e1b21385c26c926, 0x4d2c6dfc5ac42aed, 0x53380d139d95b3df,
   0x650a73548baf63de, 0x766a0abb3c77b2a8, 0x81c2c92e47edaee6, 0x92722c851482353b,
   0xa2bfe8a14cf10364, 0xa81a664bbc423001, 0xc24b8b70d0f89791, 0xc76c51a30654be30,
   0xd192e819d6ef5218, 0xd69906245565a910, 0xf40e35855771202a, 0x106aa07032bbd1b8,
   0x19a4c116b8d2d0c8, 0x1e376c085141ab53, 0x2748774cdf8eeb99, 0x34b0bcb5e19b48a8,
   0x391c0cb3c5c95a63, 0x4ed8aa4ae3418acb, 0x5b9cca4f7763e373, 0x682e6ff3d6b2b8a3,
   0x748f82ee5defb2fc, 0x78a5636f43172f60, 0x84c87814a1f0ab72, 0x8cc702081a6439ec,
   0x90befffa23631e28, 0xa4506cebde82bde9, 0xbef9a3f7b2c67915, 0xc67178f2e372532b,
   0xca273eceea26619c, 0xd186b8c721c0c207, 0xeada7dd6cde0eb1e, 0xf57d4f7fee6ed178,
   0x06f067aa72176fba, 0x0a637dc5a2c898a6, 0x113f9804bef90dae, 0x1b710b35131c471b,
   0x28db77f523047d84, 0x32caab7b40c72493, 0x3c9ebe0a15c9bebc, 0x431d67c49c100d4c,
   0x4cc5d4becb3e42b6, 0x597f299cfc657e2a, 0x5fcb6fab3ad6faec, 0x6c44198c4a475817]

def sha256 : BlockHash := sha256Parts.blockHash

def sha512 : BlockHash := sha512Parts.blockHash

end ReleaseCatalog.Digest
