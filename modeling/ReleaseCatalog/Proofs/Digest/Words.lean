import ReleaseCatalog.Proofs.Digest.Conformance

/-!
# Words of a block

A message schedule is run through in a window of sixteen words, and machine
words are read as bit vectors.

* `shows_words`: the window shows the words of a block at first.
* `Shows.advance`: the window moves on by one word.
* `toBitVec_rotateRight32`, `toBitVec_rotateRight64`, `toBitVec_rotateLeft32`:
  two shifts make a rotation.
* `choose_or`, `majority_or`: bits that are never both set may be put together
  either way.
-/

namespace ReleaseCatalog.Digest

/-! ## Windows of a schedule -/

section Windows

variable {W : Type} {w : Nat} {read : W → BitVec w} {X M : Nat → BitVec w} {window : List W}
  {t : Nat}

/-- The window shows the sixteen words of a schedule from a place on. -/
def Shows (read : W → BitVec w) (window : List W) (X : Nat → BitVec w) (t : Nat) : Prop :=
  window.map read = (List.range' t 16).map X

theorem Shows.length (h : Shows read window X t) : window.length = 16 := by
  have hlength := congrArg List.length h
  simpa using hlength

theorem Shows.getElem (h : Shows read window X t) (i : Nat) (hbound : i < window.length) :
    read window[i] = X (t + i) := by
  have hlt : i < 16 := h.length ▸ hbound
  have hget : (window.map read)[i]? = ((List.range' t 16).map X)[i]? := congrArg (·[i]?) h
  simpa [hlt, hbound] using hget

/-- The front of the window. -/
theorem Shows.front (h : Shows read window X t) (default : W) :
    read (window.head?.getD default) = X t := by
  have hlength := h.length
  rw [List.head?_eq_getElem?, List.getElem?_eq_getElem (by omega), Option.getD_some]
  exact h.getElem 0 _

/-- **A window moves on by one word.** -/
theorem Shows.advance {new : W} (h : Shows read window X t) (hnew : read new = X (t + 16)) :
    Shows read (window.tail ++ [new]) X (t + 1) := by
  unfold Shows at h ⊢
  rw [List.map_append, List.map_tail, h, List.map_singleton, hnew]
  rfl

/-- The window shows the words of a block at first. -/
theorem shows_words {size : Nat} {hpos : 0 < size} (hsize : size = w / 8) {ofBytes : List UInt8 → W}
    {value : List UInt8 → Nat} (hread : ∀ b, read (ofBytes b) = BitVec.ofNat w (value b))
    {block : List UInt8}
    (hlength : block.length = 16 * size) (hM : ∀ t, t < 16 → M t = Standard.word value block t)
    (hX : ∀ t, t < 16 → X t = M t) : Shows read ((blocks size hpos block).map ofBytes) X 0 := by
  unfold Shows
  rw [blocks_eq, hlength, Nat.mul_div_cancel _ hpos, List.map_map, List.map_map,
    List.range_eq_range']
  refine List.map_congr_left fun i hi => ?_
  have hlt : i < 16 := by simpa using hi
  rw [hX i hlt, hM i hlt, Standard.word, ← hsize, ← hread]
  rfl

end Windows

/-! ## Rotations -/

theorem toBitVec_rotateRight32 (n : Nat) (hpos : 0 < n) (hlt : n < 32) (x : UInt32) :
    (x >>> UInt32.ofNat n ||| x <<< UInt32.ofNat (32 - n)).toBitVec = x.toBitVec.rotateRight n := by
  have hright : n % 4294967296 = n := by omega
  have hleft : (32 - n) % 4294967296 = 32 - n := by omega
  have hback : (32 - n) % 32 = 32 - n := by omega
  simp [BitVec.rotateRight_def, Nat.mod_eq_of_lt hlt, hright, hleft, hback]

theorem toBitVec_rotateRight64 (n : Nat) (hpos : 0 < n) (hlt : n < 64) (x : UInt64) :
    (x >>> UInt64.ofNat n ||| x <<< UInt64.ofNat (64 - n)).toBitVec = x.toBitVec.rotateRight n := by
  have hright : n % 18446744073709551616 = n := by omega
  have hleft : (64 - n) % 18446744073709551616 = 64 - n := by omega
  have hback : (64 - n) % 64 = 64 - n := by omega
  simp [BitVec.rotateRight_def, Nat.mod_eq_of_lt hlt, hright, hleft, hback]

theorem toBitVec_rotateLeft32 (n : Nat) (hpos : 0 < n) (hlt : n < 32) (x : UInt32) :
    (x <<< UInt32.ofNat n ||| x >>> (32 - UInt32.ofNat n)).toBitVec = x.toBitVec.rotateLeft n := by
  have hback : 32 - UInt32.ofNat n = UInt32.ofNat (32 - n) := (UInt32.ofNat_sub hlt.le).symm
  have hleft : n % 4294967296 = n := by omega
  have hright : (32 - n) % 4294967296 = 32 - n := by omega
  have hrest : (32 - n) % 32 = 32 - n := by omega
  rw [hback]
  simp [BitVec.rotateLeft_def, Nat.mod_eq_of_lt hlt, hright, hleft, hrest]

theorem toBitVec_shiftRight32 (n : Nat) (hlt : n < 32) (x : UInt32) :
    (x >>> UInt32.ofNat n).toBitVec = x.toBitVec >>> n := by
  have hright : n % 4294967296 = n := by omega
  simp [Nat.mod_eq_of_lt hlt, hright]

theorem toBitVec_shiftRight64 (n : Nat) (hlt : n < 64) (x : UInt64) :
    (x >>> UInt64.ofNat n).toBitVec = x.toBitVec >>> n := by
  have hright : n % 18446744073709551616 = n := by omega
  simp [Nat.mod_eq_of_lt hlt, hright]

/-! ## Bits chosen by bits -/

section Bits

variable {w : Nat} (x y z : BitVec w)

/-- No bit is chosen from both words. -/
theorem choose_or : x &&& y ||| ~~~x &&& z = (x &&& y) ^^^ (~~~x &&& z) := by
  refine BitVec.eq_of_getLsbD_eq fun i hi => ?_
  simp only [BitVec.getLsbD_or, BitVec.getLsbD_and, BitVec.getLsbD_not, BitVec.getLsbD_xor,
    hi, decide_true, Bool.true_and]
  cases x.getLsbD i <;> simp

/-- Of three bits, two or all three pairs have both set when a pair beside
another has. -/
theorem majority_or : x &&& y ||| x &&& z ||| y &&& z = (x &&& y) ^^^ (x &&& z) ^^^ (y &&& z) := by
  refine BitVec.eq_of_getLsbD_eq fun i _ => ?_
  simp only [BitVec.getLsbD_or, BitVec.getLsbD_and, BitVec.getLsbD_xor]
  cases x.getLsbD i <;> cases y.getLsbD i <;> simp

end Bits

end ReleaseCatalog.Digest
