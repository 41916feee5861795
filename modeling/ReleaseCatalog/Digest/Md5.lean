import ReleaseCatalog.Digest.Block

/-!
# MD5

Four words of state, and sixty-four rounds in four groups of sixteen. Bytes are
put into words with the least significant one first.
-/

namespace ReleaseCatalog.Digest.Md5

/-- The four words of the state. -/
structure State where
  a : UInt32
  b : UInt32
  c : UInt32
  d : UInt32

/-- A word with its bits moved to the left, those that fall out put back at the
right. -/
def rotateLeft (n x : UInt32) : UInt32 := (x <<< n) ||| (x >>> (32 - n))

/-- The constants of the rounds: the sines of the whole numbers from one on. -/
def sines : List UInt32 :=
  [0xd76aa478, 0xe8c7b756, 0x242070db, 0xc1bdceee, 0xf57c0faf, 0x4787c62a, 0xa8304613, 0xfd469501,
   0x698098d8, 0x8b44f7af, 0xffff5bb1, 0x895cd7be, 0x6b901122, 0xfd987193, 0xa679438e, 0x49b40821,
   0xf61e2562, 0xc040b340, 0x265e5a51, 0xe9b6c7aa, 0xd62f105d, 0x02441453, 0xd8a1e681, 0xe7d3fbc8,
   0x21e1cde6, 0xc33707d6, 0xf4d50d87, 0x455a14ed, 0xa9e3e905, 0xfcefa3f8, 0x676f02d9, 0x8d2a4c8a,
   0xfffa3942, 0x8771f681, 0x6d9d6122, 0xfde5380c, 0xa4beea44, 0x4bdecfa9, 0xf6bb4b60, 0xbebfbc70,
   0x289b7ec6, 0xeaa127fa, 0xd4ef3085, 0x04881d05, 0xd9d4d039, 0xe6db99e5, 0x1fa27cf8, 0xc4ac5665,
   0xf4292244, 0x432aff97, 0xab9423a7, 0xfc93a039, 0x655b59c3, 0x8f0ccc92, 0xffeff47d, 0x85845dd1,
   0x6fa87e4f, 0xfe2ce6e0, 0xa3014314, 0x4e0811a1, 0xf7537e82, 0xbd3af235, 0x2ad7d2bb, 0xeb86d391]

/-- The amounts of rotation of each group, used in turn. -/
def turns (group : Nat) : List UInt32 :=
  match group with
  | 0 => [7, 12, 17, 22]
  | 1 => [5, 9, 14, 20]
  | 2 => [4, 11, 16, 23]
  | _ => [6, 10, 15, 21]

/-- The function of a group of rounds. -/
def mix (group : Nat) (b c d : UInt32) : UInt32 :=
  match group with
  | 0 => (b &&& c) ||| (~~~b &&& d)
  | 1 => (d &&& b) ||| (~~~d &&& c)
  | 2 => b ^^^ c ^^^ d
  | _ => c ^^^ (b ||| ~~~d)

/-- The word of the block that a round takes. -/
def wordIndex (i : Nat) : Nat :=
  match i / 16 with
  | 0 => i % 16
  | 1 => (5 * i + 1) % 16
  | 2 => (3 * i + 5) % 16
  | _ => 7 * i % 16

/-- The state after a round, by its number and its constant. -/
def round (words : List UInt32) (s : State) (sine : UInt32 × Nat) : State :=
  let i := sine.2
  let word := (words[wordIndex i]?).getD 0
  let turn := ((turns (i / 16))[i % 4]?).getD 0
  let sum := s.a + mix (i / 16) s.b s.c s.d + sine.1 + word
  ⟨s.d, s.b + rotateLeft turn sum, s.b, s.c⟩

def absorb (s : State) (block : List UInt8) : State :=
  let words := (blocks 4 four_pos block).map fun b => UInt32.ofNat (ofLittleEndian b)
  let t := sines.zipIdx.foldl (round words) s
  ⟨s.a + t.a, s.b + t.b, s.c + t.c, s.d + t.d⟩

end Md5

def md5 : BlockHash where
  State := Md5.State
  start := ⟨0x67452301, 0xefcdab89, 0x98badcfe, 0x10325476⟩
  blockSize := 64
  blockSize_pos := sixtyFour_pos
  absorb := Md5.absorb
  lengthSize := 8
  lengthField := littleEndian 8
  output s := [s.a, s.b, s.c, s.d].flatMap fun w => littleEndian 4 w.toNat

end ReleaseCatalog.Digest
