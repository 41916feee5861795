import ReleaseCatalog.Proofs.Digest.Sines
import ReleaseCatalog.Proofs.Digest.Words

/-!
# MD5 conforms to the standard

In the standard the registers stay where they are and take turns, while the
rounds move the words of the state on. The state shows the registers from the
one whose turn it is on.

* `operations_eq`: the words and amounts of rotation that formulas give are
  those of the standard's list.
* `At.round`: a round keeps the state at the registers.
* `At.rounds`: so do the rounds from any of them on.
* `md5_conforms`: a block is taken as the standard has it.
-/

namespace ReleaseCatalog.Digest.Md5

open Standard.Md5 (Registers operate operations target)

variable {X : Nat → BitVec 32} {words : List UInt32} {s : State} {r : Registers}

/-- The registers at first. -/
def registers (s : State) : Registers := ![s.a.toBitVec, s.b.toBitVec, s.c.toBitVec, s.d.toBitVec]

theorem target_succ (j : Nat) : target (j + 1) = target j + 3 := by
  ext
  simp [target, Fin.add_def, Nat.mul_succ]

/-- The state shows the registers in their circular order. -/
structure At (s : State) (r : Registers) (first : Fin 4) : Prop where
  a : s.a.toBitVec = r first
  b : s.b.toBitVec = r (first + 1)
  c : s.c.toBitVec = r (first + 2)
  d : s.d.toBitVec = r (first + 3)

theorem mix_eq (group : Nat) (b c d : UInt32) :
    (mix group b c d).toBitVec = Standard.Md5.mix group b.toBitVec c.toBitVec d.toBitVec := by
  match group with
  | 0 => rfl
  | 1 =>
    change d.toBitVec &&& b.toBitVec ||| ~~~d.toBitVec &&& c.toBitVec =
      b.toBitVec &&& d.toBitVec ||| c.toBitVec &&& ~~~d.toBitVec
    rw [BitVec.and_comm d.toBitVec, BitVec.and_comm (~~~d.toBitVec)]
  | 2 => rfl
  | group + 3 => rfl

/-- **The words and the amounts of rotation are those of the standard's list.** -/
theorem operations_eq : ∀ j, j < 64 →
    ∃ amount, operations[j]?.getD (0, 0) = (wordIndex j, amount) ∧ wordIndex j < 16 ∧
    ((turns (j / 16))[j % 4]?).getD 0 = UInt32.ofNat amount ∧ 0 < amount ∧ amount < 32 := by
  have hlist : ∀ j, j < 64 → (operations[j]?.getD (0, 0)).1 = wordIndex j ∧ wordIndex j < 16 ∧
      ((turns (j / 16))[j % 4]?).getD 0 = UInt32.ofNat (operations[j]?.getD (0, 0)).2 ∧
        0 < (operations[j]?.getD (0, 0)).2 ∧ (operations[j]?.getD (0, 0)).2 < 32 := by
    decide +kernel
  intro j hj
  obtain ⟨hword, hrest⟩ := hlist j hj
  exact ⟨_, Prod.ext hword rfl, hrest⟩

/-- **A round keeps the state at the registers.** -/
theorem At.round {j : Nat} {sine : UInt32} (h : At s r (target j)) (hj : j < 64)
    (hwords : ∀ k, k < 16 → (words[k]?.getD 0).toBitVec = X k)
    (hsine : sine.toBitVec = Standard.Md5.sine (j + 1)) :
    At (Md5.round words s (sine, j)) (operate X r j) (target (j + 1)) := by
  obtain ⟨amount, hoperation, hplace, hturn, hpos, hlt⟩ := operations_eq j hj
  have hoperate : operate X r j =
      Function.update r (target j) (Md5.round words s (sine, j)).b.toBitVec := by
    have hrotate := toBitVec_rotateLeft32 amount hpos hlt
    unfold operate Md5.round
    rw [hoperation]
    dsimp only
    rw [hturn, UInt32.toBitVec_add, rotateLeft, hrotate, UInt32.toBitVec_add, UInt32.toBitVec_add,
      UInt32.toBitVec_add, mix_eq, hwords _ hplace, hsine, h.a, h.b, h.c, h.d,
      BitVec.add_assoc _ (Standard.Md5.sine (j + 1)), BitVec.add_comm (Standard.Md5.sine (j + 1)),
      ← BitVec.add_assoc]
  have hcircle : ∀ i : Fin 4, i + 3 + 1 = i ∧ i + 3 + 2 = i + 1 ∧ i + 3 + 3 = i + 2 := by decide
  have hother : ∀ i : Fin 4, i + 3 ≠ i ∧ i + 1 ≠ i ∧ i + 2 ≠ i := by decide
  obtain ⟨hone, htwo, hthree⟩ := hcircle (target j)
  obtain ⟨hlast, hnext, hthird⟩ := hother (target j)
  -- the last register comes to the front, and the one that has changed stands behind it
  rw [target_succ, hoperate]
  constructor
  · rw [Function.update_of_ne hlast]
    exact h.d
  · rw [hone, Function.update_self]
  · rw [htwo, Function.update_of_ne hnext]
    exact h.b
  · rw [hthree, Function.update_of_ne hthird]
    exact h.c

/-- **The rounds keep the state at the registers**, from any of them on. -/
theorem At.rounds {sines : List UInt32} {j : Nat} (h : At s r (target j))
    (hj : j + sines.length ≤ 64) (hwords : ∀ k, k < 16 → (words[k]?.getD 0).toBitVec = X k)
    (hsines : sines.map UInt32.toBitVec =
      (List.range' (j + 1) sines.length).map Standard.Md5.sine) :
    At ((sines.zipIdx j).foldl (Md5.round words) s)
      ((List.range' j sines.length).foldl (operate X) r) (target (j + sines.length)) := by
  induction sines generalizing s r j with
  | nil => exact h
  | cons sine sines ih =>
    rw [List.length_cons] at hj hsines
    rw [List.range'_succ, List.map_cons, List.map_cons, List.cons.injEq] at hsines
    have hround := h.round (by omega) hwords hsines.1
    have hrest := ih hround (by omega) hsines.2
    have hcount : j + (sines.length + 1) = j + 1 + sines.length := by omega
    rw [List.length_cons, List.zipIdx_cons, List.range'_succ, List.foldl_cons,
      List.foldl_cons, hcount]
    exact hrest

/-- **MD5 conforms to the standard.** -/
theorem md5_conforms : md5.Conforms Standard.Md5.function registers where
  blockSize := rfl
  lengthSize := rfl
  lengthField := rfl
  start := rfl
  output s := rfl
  absorb s block M hlength hM := by
    have hread : ∀ b, (UInt32.ofNat (ofLittleEndian b)).toBitVec =
        BitVec.ofNat 32 (ofLittleEndian b) := fun b => rfl
    have hwindow : Shows UInt32.toBitVec
        ((blocks 4 four_pos block).map fun b => UInt32.ofNat (ofLittleEndian b)) M 0 :=
      shows_words rfl hread hlength hM fun t ht => rfl
    have hwords : ∀ k, k < 16 →
        ((((blocks 4 four_pos block).map fun b => UInt32.ofNat (ofLittleEndian b))[k]?).getD
          0).toBitVec = M k := by
      intro k hk
      have hbound := hwindow.length
      rw [List.getElem?_eq_getElem (by omega), Option.getD_some, hwindow.getElem k, Nat.zero_add]
    have hfirst : At s (registers s) (target 0) := ⟨rfl, rfl, rfl, rfl⟩
    have hlast := hfirst.rounds (by decide) hwords Standard.Md5.map_toBitVec_sines
    change registers (absorb s block) = Standard.Md5.compress (registers s) M
    unfold Standard.Md5.compress
    rw [List.range_eq_range']
    funext i
    match i with
    | 0 => exact congrArg (s.a.toBitVec + ·) hlast.a
    | 1 => exact congrArg (s.b.toBitVec + ·) hlast.b
    | 2 => exact congrArg (s.c.toBitVec + ·) hlast.c
    | 3 => exact congrArg (s.d.toBitVec + ·) hlast.d

end ReleaseCatalog.Digest.Md5
