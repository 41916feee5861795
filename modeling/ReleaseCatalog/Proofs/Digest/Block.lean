import ReleaseCatalog.Digest.Block

/-!
# Digests of a message that comes in pieces

A hasher keeps the state after the whole blocks of what it took, and the bytes
behind them. It does not matter where one piece ends and the next one begins.

* `blocks_append`: the blocks of a message are those of its front, and those of
  what the front left over with the rest behind it.
* `Hasher.HasTaken.update`: one more piece keeps the hasher in step with the message.
* `Hasher.finish_eq_digest`: the digest of the pieces is the digest of the message.
* `hex_inj`: bytes can be told from their hexadecimal digits.
-/

namespace ReleaseCatalog.Digest

variable {n : Nat} {hn : 0 < n} {bytes xs ys : List UInt8}

/-- Less than a block holds no block. -/
theorem blocks_short (h : bytes.length < n) : blocks n hn bytes = [] := by
  have hdrop : bytes.drop (n - 1) = [] := List.drop_eq_nil_of_le (by omega)
  rw [blocks, if_pos hdrop]

/-- The first block stands in front of the others. -/
theorem blocks_step (h : n ≤ bytes.length) :
    blocks n hn bytes = bytes.take n :: blocks n hn (bytes.drop n) := by
  have hdrop : bytes.drop (n - 1) ≠ [] := by
    intro hnil
    have hle := List.drop_eq_nil_iff.1 hnil
    omega
  rw [blocks, if_neg hdrop]

theorem leftover_short (h : bytes.length < n) : leftover n bytes = bytes := by
  unfold leftover
  rw [Nat.div_eq_of_lt h, Nat.zero_mul, List.drop_zero]

theorem leftover_step (hn : 0 < n) (h : n ≤ bytes.length) :
    leftover n bytes = leftover n (bytes.drop n) := by
  have hcount : bytes.length / n = (bytes.length - n) / n + 1 := Nat.div_eq_sub_div hn h
  unfold leftover
  rw [List.length_drop, List.drop_drop, hcount, Nat.add_mul, Nat.one_mul, Nat.add_comm n]

/-- **What is left over of the front of a message goes on with the rest.** -/
theorem leftover_append (hn : 0 < n) (xs ys : List UInt8) :
    leftover n (xs ++ ys) = leftover n (leftover n xs ++ ys) := by
  by_cases h : n ≤ xs.length
  · have hlong : n ≤ (xs ++ ys).length := by rw [List.length_append]; omega
    rw [leftover_step hn hlong, List.drop_append_of_le_length h, leftover_step hn h]
    exact leftover_append hn (xs.drop n) ys
  · have hshort : xs.length < n := by omega
    rw [leftover_short hshort]
termination_by xs.length
decreasing_by simp only [List.length_drop]; omega

/-- **The blocks of a message are those of its front, then those of what the
front left over and the rest.** -/
theorem blocks_append (xs ys : List UInt8) :
    blocks n hn (xs ++ ys) = blocks n hn xs ++ blocks n hn (leftover n xs ++ ys) := by
  by_cases h : n ≤ xs.length
  · have hlong : n ≤ (xs ++ ys).length := by rw [List.length_append]; omega
    have hrest := blocks_append (xs.drop n) ys
    rw [blocks_step hlong, List.take_append_of_le_length h, List.drop_append_of_le_length h, hrest,
      blocks_step h, leftover_step hn h, List.cons_append]
  · have hshort : xs.length < n := by omega
    rw [blocks_short hshort, leftover_short hshort, List.nil_append]
termination_by xs.length
decreasing_by simp only [List.length_drop]; omega

theorem BlockHash.absorbAll_append (H : BlockHash) (s : H.State) (xs ys : List UInt8) :
    H.absorbAll s (xs ++ ys) = H.absorbAll (H.absorbAll s xs) (leftover H.blockSize xs ++ ys) := by
  unfold BlockHash.absorbAll
  rw [blocks_append, List.foldl_append]

namespace Hasher

variable {H : BlockHash} {h : Hasher H}

/-- The hasher stands where it stands after taking the bytes all at once. -/
structure HasTaken (h : Hasher H) (bytes : List UInt8) : Prop where
  state : h.state = H.absorbAll H.start bytes
  pending : h.pending = leftover H.blockSize bytes
  count : h.count = bytes.length

theorem hasTaken_start (H : BlockHash) : (start H).HasTaken [] := by
  have hpos : ([] : List UInt8).length < H.blockSize := H.blockSize_pos
  constructor
  · unfold BlockHash.absorbAll
    rw [blocks_short hpos]
    rfl
  · exact (leftover_short hpos).symm
  · rfl

/-- **A further piece is taken as if it had come with the others.** -/
theorem HasTaken.update (ht : h.HasTaken bytes) (piece : List UInt8) :
    (h.update piece).HasTaken (bytes ++ piece) := by
  constructor
  · show H.absorbAll h.state (h.pending ++ piece) = _
    rw [ht.state, ht.pending, ← H.absorbAll_append]
  · show leftover H.blockSize (h.pending ++ piece) = _
    rw [ht.pending, ← leftover_append H.blockSize_pos]
  · show h.count + piece.length = _
    rw [ht.count, List.length_append]

theorem HasTaken.foldl_update (ht : h.HasTaken bytes) (pieces : List (List UInt8)) :
    (pieces.foldl Hasher.update h).HasTaken (bytes ++ pieces.flatten) := by
  induction pieces generalizing h bytes with
  | nil =>
    rw [List.flatten_nil, List.append_nil]
    exact ht
  | cons piece pieces ih =>
    rw [List.foldl_cons, List.flatten_cons, ← List.append_assoc]
    exact ih (ht.update piece)

theorem HasTaken.finish (ht : h.HasTaken bytes) : h.finish = H.digest bytes := by
  unfold Hasher.finish BlockHash.digest
  rw [ht.state, ht.pending, ht.count, ← H.absorbAll_append]

/-- **The digest of a message does not depend on the pieces in which it comes.** -/
theorem finish_eq_digest (H : BlockHash) (pieces : List (List UInt8)) :
    (pieces.foldl Hasher.update (start H)).finish = H.digest pieces.flatten := by
  have htaken := (hasTaken_start H).foldl_update pieces
  rw [List.nil_append] at htaken
  exact htaken.finish

end Hasher

@[simp] theorem length_bigEndian (size n : Nat) : (bigEndian size n).length = size := by
  simp [bigEndian]

@[simp] theorem length_littleEndian (size n : Nat) : (littleEndian size n).length = size := by
  simp [littleEndian]

/-- The digits of hexadecimal numbers, the letters in lower case. -/
def hexDigits : List Char := "0123456789abcdef".toList

theorem digitChar_mem_hexDigits : ∀ d, d < 16 → d.digitChar ∈ hexDigits := by decide

theorem digitChar_inj : ∀ d, d < 16 → ∀ e, e < 16 → d.digitChar = e.digitChar → d = e := by decide

theorem toList_hex (bytes : List UInt8) :
    (hex bytes).toList =
      bytes.flatMap fun b => [(b.toNat / 16).digitChar, (b.toNat % 16).digitChar] := by
  rw [hex, String.toList_ofList]

theorem high_lt (b : UInt8) : b.toNat / 16 < 16 := by
  have hb := b.toNat_lt
  omega

theorem low_lt (b : UInt8) : b.toNat % 16 < 16 := Nat.mod_lt _ (by decide)

theorem mem_hexDigits_of_mem_hex {c : Char} (hc : c ∈ (hex bytes).toList) : c ∈ hexDigits := by
  rw [toList_hex, List.mem_flatMap] at hc
  obtain ⟨b, -, hc⟩ := hc
  simp only [List.mem_cons, List.not_mem_nil, or_false] at hc
  rcases hc with rfl | rfl
  · exact digitChar_mem_hexDigits _ (high_lt b)
  · exact digitChar_mem_hexDigits _ (low_lt b)

/-- A byte has two digits. -/
theorem length_hex (bytes : List UInt8) : (hex bytes).length = 2 * bytes.length := by
  rw [← String.length_toList, toList_hex]
  induction bytes with
  | nil => rfl
  | cons b bytes ih =>
    rw [List.flatMap_cons, List.length_append, ih, List.length_cons, List.length_cons,
      List.length_cons, List.length_nil]
    omega

/-- **Different bytes have different digits.** -/
theorem hex_inj : hex xs = hex ys ↔ xs = ys := by
  refine ⟨fun h => ?_, fun h => h ▸ rfl⟩
  have hdigits := congrArg String.toList h
  rw [toList_hex, toList_hex] at hdigits
  clear h
  induction xs generalizing ys with
  | nil =>
    cases ys with
    | nil => rfl
    | cons y ys => simp at hdigits
  | cons x xs ih =>
    cases ys with
    | nil => simp at hdigits
    | cons y ys =>
      simp only [List.flatMap_cons, List.cons_append, List.nil_append, List.cons.injEq] at hdigits
      obtain ⟨hhigh, hlow, hrest⟩ := hdigits
      have hdiv := digitChar_inj _ (high_lt x) _ (high_lt y) hhigh
      have hmod := digitChar_inj _ (low_lt x) _ (low_lt y) hlow
      have hbyte : x = y := UInt8.toNat_inj.1 (by omega)
      rw [hbyte, ih hrest]

end ReleaseCatalog.Digest
