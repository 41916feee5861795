import ReleaseCatalog.Proofs.Digest.Block
import ReleaseCatalog.Proofs.Digest.Standard

/-!
# Digests by blocks conform to the standard

* `zeros_eq`: the padding has no more zeros than are needed.
* `blocks_eq`: the blocks of a message are its parts of one length, counted through.
* `BlockHash.Conforms.digest_eq`: a function that takes each block as the
  standard has it computes the standard digest.
-/

namespace ReleaseCatalog.Digest

open Standard

/-- **The padding has the least number of zeros that fills whole blocks.** -/
theorem zeros_eq {blockSize : Nat} (hpos : 0 < blockSize) (lengthSize length : Nat) :
    zeros blockSize lengthSize length =
      (blockSize - (length + 1 + lengthSize) % blockSize) % blockSize := by
  have hsum : ∀ k, length + 1 + k + lengthSize = length + 1 + lengthSize + k := fun k => by omega
  have hlt := Nat.mod_lt (length + 1 + lengthSize) hpos
  have hsplit := Nat.div_add_mod (length + 1 + lengthSize) blockSize
  have hdvd : ∀ k, blockSize ∣ length + 1 + lengthSize + k ↔
      blockSize ∣ (length + 1 + lengthSize) % blockSize + k := by
    intro k
    rw [← hsplit, Nat.add_assoc, Nat.dvd_add_right (Nat.dvd_mul_right _ _), hsplit]
  unfold zeros
  -- how many whole blocks there are does not matter for the zeros
  simp only [hsum, hdvd]
  revert hlt
  generalize (length + 1 + lengthSize) % blockSize = used
  intro hlt
  have hfound : ∀ k, k < blockSize → blockSize ∣ used + k → (∀ j, j < k → ¬ blockSize ∣ used + j) →
      ((List.range blockSize).find? fun k => decide (blockSize ∣ used + k)).getD 0 = k := by
    intro k hk hfits hleast
    have hfind : ((List.range blockSize).find? fun k => decide (blockSize ∣ used + k)) = some k :=
      List.find?_range_eq_some.2
        ⟨by simpa using hfits, List.mem_range.2 hk, fun j hj => by simpa using hleast j hj⟩
    rw [hfind]
    rfl
  rcases Nat.eq_zero_or_pos used with rfl | hused
  · rw [Nat.sub_zero, Nat.mod_self]
    exact hfound 0 hpos (by simp) (fun j hj => absurd hj (Nat.not_lt_zero j))
  · rw [Nat.mod_eq_of_lt (by omega)]
    refine hfound _ (by omega) (by rw [Nat.add_sub_cancel' hlt.le]) fun j hj hdvd => ?_
    have hle := Nat.le_of_dvd (by omega) hdvd
    omega

variable {n : Nat} {hn : 0 < n}

/-- **The blocks of a message are its parts of their length, one after another.** -/
theorem blocks_eq (bytes : List UInt8) :
    blocks n hn bytes = (List.range (bytes.length / n)).map fun i =>
      (bytes.drop (i * n)).take n := by
  by_cases h : n ≤ bytes.length
  · have hcount : bytes.length / n = (bytes.length - n) / n + 1 := Nat.div_eq_sub_div hn h
    have hrest := blocks_eq (bytes.drop n)
    have hshift : ∀ i, (bytes.drop n).drop (i * n) = bytes.drop ((i + 1) * n) := by
      intro i
      rw [List.drop_drop, Nat.succ_mul, Nat.add_comm]
    rw [blocks_step h, hrest, hcount, List.range_succ_eq_map, List.map_cons, List.map_map,
      List.length_drop, Nat.zero_mul, List.drop_zero]
    simp only [hshift]
    rfl
  · have hshort : bytes.length < n := by omega
    rw [blocks_short hshort, Nat.div_eq_of_lt hshort]
    rfl
termination_by bytes.length
decreasing_by simp only [List.length_drop]; omega

/-- The words of a block of sixteen are those at its place in the message. -/
theorem take_drop_block {size i t : Nat} (ht : t < 16) (bytes : List UInt8) :
    (((bytes.drop (i * (16 * size))).take (16 * size)).drop (t * size)).take size =
      (bytes.drop ((16 * i + t) * size)).take size := by
  have hroom : size ≤ 16 * size - t * size := by
    rw [← Nat.sub_mul]
    exact Nat.le_mul_of_pos_left size (by omega)
  rw [List.drop_take, List.take_take, List.drop_drop, Nat.min_eq_left hroom]
  congr 2
  ring

/-- The function takes blocks as the standard has it, its states read by `read`. -/
structure BlockHash.Conforms {w : Nat} (H : BlockHash) (F : BlockFunction w)
    (read : H.State → F.State) : Prop where
  blockSize : H.blockSize = 16 * (w / 8)
  lengthSize : H.lengthSize = F.lengthSize
  lengthField : H.lengthField = F.lengthField
  start : read H.start = F.start
  output : ∀ s, H.output s = F.output (read s)
  absorb : ∀ (s : H.State) (block : List UInt8) (M : Nat → BitVec w), block.length = H.blockSize →
    (∀ t, t < 16 → M t = word F.value block t) → read (H.absorb s block) = F.compress (read s) M

/-- **A function that takes each block as the standard has it computes the
standard digest.** -/
theorem BlockHash.Conforms.digest_eq {w : Nat} {H : BlockHash} {F : BlockFunction w}
    {read : H.State → F.State} (h : H.Conforms F read) (message : List UInt8) :
    H.digest message = F.digest message := by
  have hbytes : message ++ H.padding message.length =
      padded (16 * (w / 8)) F.lengthSize F.lengthField message := by
    unfold BlockHash.padding padded
    rw [h.lengthField, h.blockSize, h.lengthSize, zeros_eq (h.blockSize ▸ H.blockSize_pos)]
    rfl
  unfold BlockHash.digest BlockFunction.digest
  rw [hbytes, h.output]
  generalize padded (16 * (w / 8)) F.lengthSize F.lengthField message = bytes
  have hpos : 0 < 16 * (w / 8) := h.blockSize ▸ H.blockSize_pos
  have hblock : ∀ i, i < bytes.length / (16 * (w / 8)) → ∀ s : H.State,
      read (H.absorb s ((bytes.drop (i * (16 * (w / 8)))).take (16 * (w / 8)))) =
        F.compress (read s) fun t => word F.value bytes (16 * i + t) := by
    intro i hi s
    refine h.absorb s _ _ ?_ fun t ht => ?_
    · have hwhole : (i + 1) * (16 * (w / 8)) ≤ bytes.length :=
        Nat.le_trans (Nat.mul_le_mul_right _ hi) (Nat.div_mul_le_self _ _)
      rw [h.blockSize, List.length_take, List.length_drop]
      rw [Nat.succ_mul] at hwhole
      omega
    · unfold word
      rw [take_drop_block ht]
  -- both go through the blocks in their order, and stand at the same state behind
  -- each of them
  have hall : ∀ places : List Nat, (∀ i ∈ places, i < bytes.length / (16 * (w / 8))) →
      ∀ s : H.State,
      read (places.foldl
        (fun s i => H.absorb s ((bytes.drop (i * (16 * (w / 8)))).take (16 * (w / 8)))) s) =
        places.foldl (fun s i => F.compress s fun t => word F.value bytes (16 * i + t))
          (read s) := by
    intro places hplaces
    induction places with
    | nil => exact fun s => rfl
    | cons i places ih =>
      obtain ⟨hi, hplaces⟩ := List.forall_mem_cons.1 hplaces
      intro s
      rw [List.foldl_cons, List.foldl_cons, ih hplaces, hblock i hi]
  unfold BlockHash.absorbAll
  rw [blocks_eq, List.foldl_map, h.blockSize, hall _ (fun i hi => List.mem_range.1 hi), h.start]

end ReleaseCatalog.Digest
