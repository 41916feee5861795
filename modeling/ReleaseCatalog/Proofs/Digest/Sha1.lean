import ReleaseCatalog.Digest.Sha1
import ReleaseCatalog.Proofs.Digest.Words

/-!
# SHA-1 conforms to the standard

A round knows the number of its group and the front of the window, where the
standard's knows the number of the round.

* `round_eq`: a round of a group is the standard's round of any number in that group.
* `rounds_eq`: so are the rounds from any of them on.
* `sha1_conforms`: a block is taken as the standard has it.
-/

namespace ReleaseCatalog.Digest.Sha1

variable {M X : Nat → BitVec 32} {window : List UInt32}

/-- The five words as the standard has them. -/
def readState (s : State) : Standard.Sha1.State :=
  ⟨s.a.toBitVec, s.b.toBitVec, s.c.toBitVec, s.d.toBitVec, s.e.toBitVec⟩

/-- The group of a round gives its function and its constant. -/
theorem group_eq (t : Nat) (b c d : UInt32) :
    (group (t / 20) b c d).1.toBitVec = Standard.Sha1.mix t b.toBitVec c.toBitVec d.toBitVec ∧
      (group (t / 20) b c d).2.toBitVec = Standard.Sha1.constant t := by
  unfold Standard.Sha1.mix Standard.Sha1.constant
  by_cases h20 : t < 20
  · have hgroup : t / 20 = 0 := by omega
    rw [hgroup, if_pos h20, if_pos h20]
    exact ⟨choose_or _ _ _, rfl⟩
  by_cases h40 : t < 40
  · have hgroup : t / 20 = 1 := by omega
    rw [hgroup, if_neg h20, if_pos h40, if_neg h20, if_pos h40]
    exact ⟨rfl, rfl⟩
  by_cases h60 : t < 60
  · have hgroup : t / 20 = 2 := by omega
    rw [hgroup, if_neg h20, if_neg h40, if_pos h60, if_neg h20, if_neg h40, if_pos h60]
    exact ⟨majority_or _ _ _, rfl⟩
  · obtain ⟨n, hgroup⟩ : ∃ n, t / 20 = n + 3 := ⟨t / 20 - 3, by omega⟩
    rw [hgroup, if_neg h20, if_neg h40, if_neg h60, if_neg h20, if_neg h40, if_neg h60]
    exact ⟨rfl, rfl⟩

/-- **A round is the standard's round** of any number in its group. -/
theorem round_eq (s : State) {t : Nat} {word : UInt32} (hword : word.toBitVec = X t) :
    readState (round s (t / 20) word) = Standard.Sha1.round X (readState s) t := by
  obtain ⟨hmix, hconstant⟩ := group_eq t s.b s.c s.d
  have hfive : (rotateLeft 5 s.a).toBitVec = s.a.toBitVec.rotateLeft 5 :=
    toBitVec_rotateLeft32 5 (by decide) (by decide) s.a
  have hthirty : (rotateLeft 30 s.b).toBitVec = s.b.toBitVec.rotateLeft 30 :=
    toBitVec_rotateLeft32 30 (by decide) (by decide) s.b
  unfold round Standard.Sha1.round readState
  simp only [UInt32.toBitVec_add, hmix, hconstant, hfive, hthirty, hword]

theorem schedule_add (M : Nat → BitVec 32) (t : Nat) :
    Standard.Sha1.schedule M (t + 16) =
      (Standard.Sha1.schedule M (t + 13) ^^^ Standard.Sha1.schedule M (t + 8) ^^^
      Standard.Sha1.schedule M (t + 2) ^^^ Standard.Sha1.schedule M t).rotateLeft 1 := by
  rw [Standard.Sha1.schedule, if_neg (by omega)]
  rfl

theorem advance_eq (h : window.length = 16) :
    advance window = window.tail ++
      [rotateLeft 1 (window[13] ^^^ window[8] ^^^ window[2] ^^^ window[0])] := by
  match window, h with
  | [w0, w1, w2, w3, w4, w5, w6, w7, w8, w9, w10, w11, w12, w13, w14, w15], _ => rfl

/-- **The window runs through the schedule of the standard.** -/
theorem shows_advance {t : Nat} (h : Shows UInt32.toBitVec window (Standard.Sha1.schedule M) t) :
    Shows UInt32.toBitVec (advance window) (Standard.Sha1.schedule M) (t + 1) := by
  have hrotate : ∀ x, (rotateLeft 1 x).toBitVec = x.toBitVec.rotateLeft 1 :=
    toBitVec_rotateLeft32 1 (by decide) (by decide)
  rw [advance_eq h.length]
  refine h.advance ?_
  rw [hrotate, UInt32.toBitVec_xor, UInt32.toBitVec_xor, UInt32.toBitVec_xor, h.getElem 13,
    h.getElem 8, h.getElem 2, h.getElem 0, schedule_add]
  rfl

/-- **The rounds are those of the standard**, from any of them on. -/
theorem rounds_eq (s : State) (t n : Nat)
    (h : Shows UInt32.toBitVec window (Standard.Sha1.schedule M) t) :
    readState (rounds s window ((List.range' t n).map (· / 20))) =
      (List.range' t n).foldl (Standard.Sha1.round (Standard.Sha1.schedule M)) (readState s) := by
  induction n generalizing s window t with
  | zero => rfl
  | succ n ih =>
    rw [List.range'_succ, List.map_cons, rounds, ih _ _ (shows_advance h), round_eq s (h.front 0),
      List.foldl_cons]

/-- **SHA-1 conforms to the standard.** -/
theorem sha1_conforms : sha1.Conforms Standard.Sha1.function readState where
  blockSize := rfl
  lengthSize := rfl
  lengthField := rfl
  start := rfl
  output s := rfl
  absorb s block M hlength hM := by
    have hread : ∀ b, (UInt32.ofNat (ofBigEndian b)).toBitVec = BitVec.ofNat 32 (ofBigEndian b) :=
      fun b => rfl
    have hfirst : ∀ t, t < 16 → Standard.Sha1.schedule M t = M t := fun t ht => by
      rw [Standard.Sha1.schedule, if_pos ht]
    have hwindow : Shows UInt32.toBitVec
        ((blocks 4 four_pos block).map fun b => UInt32.ofNat (ofBigEndian b))
        (Standard.Sha1.schedule M) 0 := shows_words rfl hread hlength hM hfirst
    have hschedule : schedule = (List.range' 0 80).map (· / 20) := by decide
    have hrounds := rounds_eq s 0 80 hwindow
    change readState (absorb s block) = Standard.Sha1.compress (readState s) M
    unfold Standard.Sha1.compress
    rw [List.range_eq_range', ← hrounds, ← hschedule]
    rfl

end ReleaseCatalog.Digest.Sha1
