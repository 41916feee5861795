/-!
# Digests by blocks

A digest function that works by blocks pads a message to whole blocks, its
length at the end, and absorbs the blocks one after another into a state.
`BlockHash` holds what such a function is made of, `BlockHash.digest` is the
digest of a message at once, and a `Hasher` takes the message in pieces of any
size and keeps only what does not fill a block yet.
-/

namespace ReleaseCatalog.Digest

/-- What a digest function by blocks is made of. -/
structure BlockHash where
  State : Type
  start : State
  blockSize : Nat
  blockSize_pos : 0 < blockSize
  absorb : State → List UInt8 → State
  /-- The size of the field at the end of the padding that holds the length in
  bits. -/
  lengthSize : Nat
  /-- The bytes of that field. -/
  lengthField : Nat → List UInt8
  /-- The digest that a state stands for. -/
  output : State → List UInt8

theorem four_pos : 0 < 4 := by decide

theorem sixtyFour_pos : 0 < 64 := by decide

/-- The whole blocks of `n` bytes at the front of a message. -/
def blocks (n : Nat) (h : 0 < n) (bytes : List UInt8) : List (List UInt8) :=
  if bytes.drop (n - 1) = [] then [] else bytes.take n :: blocks n h (bytes.drop n)
termination_by bytes.length
decreasing_by
  rename_i hne
  have : bytes ≠ [] := by rintro rfl; simp at hne
  have := List.length_pos_iff.2 this
  simp only [List.length_drop]
  omega

/-- What is left of a message behind its whole blocks of `n` bytes. -/
def leftover (n : Nat) (bytes : List UInt8) : List UInt8 := bytes.drop (bytes.length / n * n)

/-- A number's lowest bytes, the most significant one first. -/
def bigEndian (size n : Nat) : List UInt8 :=
  (List.range size).reverse.map fun i => UInt8.ofNat (n >>> (8 * i))

/-- A number's lowest bytes, the least significant one first. -/
def littleEndian (size n : Nat) : List UInt8 :=
  (List.range size).map fun i => UInt8.ofNat (n >>> (8 * i))

/-- The number that bytes write, the most significant one first. -/
def ofBigEndian (bytes : List UInt8) : Nat := bytes.foldl (fun n b => 256 * n + b.toNat) 0

/-- The number that bytes write, the least significant one first. -/
def ofLittleEndian (bytes : List UInt8) : Nat := bytes.foldr (fun b n => 256 * n + b.toNat) 0

namespace BlockHash

variable (H : BlockHash)

/-- The bytes that follow a message of `length` bytes: a one bit, zeros, and the
length. -/
def padding (length : Nat) : List UInt8 :=
  let used := (length + 1 + H.lengthSize) % H.blockSize
  0x80 :: List.replicate ((H.blockSize - used) % H.blockSize) 0 ++ H.lengthField (8 * length)

/-- The state after the whole blocks of a message. -/
def absorbAll (state : H.State) (bytes : List UInt8) : H.State :=
  (blocks H.blockSize H.blockSize_pos bytes).foldl H.absorb state

def digest (message : List UInt8) : List UInt8 :=
  H.output (H.absorbAll H.start (message ++ H.padding message.length))

end BlockHash

/-- A digest in the making. -/
structure Hasher (H : BlockHash) where
  state : H.State
  /-- The bytes that do not fill a block yet. -/
  pending : List UInt8
  /-- The number of bytes taken so far. -/
  count : Nat

namespace Hasher

variable {H : BlockHash}

/-- The hasher that has not taken anything. -/
def start (H : BlockHash) : Hasher H := ⟨H.start, [], 0⟩

/-- The hasher after it takes more bytes. -/
def update (h : Hasher H) (bytes : List UInt8) : Hasher H :=
  let all := h.pending ++ bytes
  ⟨H.absorbAll h.state all, leftover H.blockSize all, h.count + bytes.length⟩

/-- The digest of all bytes that the hasher took. -/
def finish (h : Hasher H) : List UInt8 :=
  H.output (H.absorbAll h.state (h.pending ++ H.padding h.count))

end Hasher

/-- Bytes in hexadecimal digits, the letters in lower case. -/
def hex (bytes : List UInt8) : String :=
  String.ofList (bytes.flatMap fun b =>
    [Nat.digitChar (b.toNat / 16), Nat.digitChar (b.toNat % 16)])

end ReleaseCatalog.Digest
