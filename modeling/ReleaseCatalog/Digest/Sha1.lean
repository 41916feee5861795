import ReleaseCatalog.Digest.Block

/-!
# SHA-1

The oldest function of the Secure Hash Standard: five words of state, and eighty
rounds in four groups of twenty, each group with a function of its own.
-/

namespace ReleaseCatalog.Digest.Sha1

/-- The five words of the state. -/
structure State where
  a : UInt32
  b : UInt32
  c : UInt32
  d : UInt32
  e : UInt32

/-- A word with its bits moved to the left, those that fall out put back at the
right. -/
def rotateLeft (n x : UInt32) : UInt32 := (x <<< n) ||| (x >>> (32 - n))

/-- The function of a group of rounds, and its constant. -/
def group (n : Nat) (b c d : UInt32) : UInt32 × UInt32 :=
  match n with
  | 0 => ((b &&& c) ||| (~~~b &&& d), 0x5a827999)
  | 1 => (b ^^^ c ^^^ d, 0x6ed9eba1)
  | 2 => ((b &&& c) ||| (b &&& d) ||| (c &&& d), 0x8f1bbcdc)
  | _ => (b ^^^ c ^^^ d, 0xca62c1d6)

/-- The state after a round of a group with its word of the message schedule. -/
def round (s : State) (groupNumber : Nat) (word : UInt32) : State :=
  let (f, constant) := group groupNumber s.b s.c s.d
  ⟨rotateLeft 5 s.a + f + s.e + constant + word, s.a, rotateLeft 30 s.b, s.c, s.d⟩

/-- The next sixteen words of the message schedule less the first. -/
def advance (window : List UInt32) : List UInt32 :=
  match window with
  | [w0, w1, w2, w3, w4, w5, w6, w7, w8, w9, w10, w11, w12, w13, w14, w15] =>
    [w1, w2, w3, w4, w5, w6, w7, w8, w9, w10, w11, w12, w13, w14, w15,
     rotateLeft 1 (w13 ^^^ w8 ^^^ w2 ^^^ w0)]
  | other => other

/-- The state after the rounds of the given groups. -/
def rounds (s : State) (window : List UInt32) : List Nat → State
  | [] => s
  | n :: rest => rounds (round s n (window.head?.getD 0)) (advance window) rest

def schedule : List Nat := [0, 1, 2, 3].flatMap (List.replicate 20)

def absorb (s : State) (block : List UInt8) : State :=
  let words := (blocks 4 four_pos block).map fun b => UInt32.ofNat (ofBigEndian b)
  let t := rounds s words schedule
  ⟨s.a + t.a, s.b + t.b, s.c + t.c, s.d + t.d, s.e + t.e⟩

end Sha1

def sha1 : BlockHash where
  State := Sha1.State
  start := ⟨0x67452301, 0xefcdab89, 0x98badcfe, 0x10325476, 0xc3d2e1f0⟩
  blockSize := 64
  blockSize_pos := sixtyFour_pos
  absorb := Sha1.absorb
  lengthSize := 8
  lengthField := bigEndian 8
  output s := [s.a, s.b, s.c, s.d, s.e].flatMap fun w => bigEndian 4 w.toNat

end ReleaseCatalog.Digest
