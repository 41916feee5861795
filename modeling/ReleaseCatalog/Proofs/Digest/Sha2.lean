import ReleaseCatalog.Proofs.Digest.Roots
import ReleaseCatalog.Proofs.Digest.Words

/-!
# SHA-256 and SHA-512 conform to the standard

The two functions are made of the same parts, so what is asked of the words is
said once and the conformance follows from it. The window of the message
schedule shows the words from the number of the round on.

* `Sha2.Realizes`: the words of a function stand for the standard's bit vectors,
  and are mixed alike.
* `Sha2.Realizes.rounds`: the rounds are those of the standard, from any of them on.
* `Sha2.Realizes.conforms`: such a function takes each block as the standard has it.
* `sha256Parts_realizes`, `sha512Parts_realizes`: the two functions do, their
  constants being the roots of the primes.
-/

namespace ReleaseCatalog.Digest

variable {W : Type} {w : Nat} {read : W → BitVec w} {X M : Nat → BitVec w} {window : List W}
  {t : Nat}

namespace Sha2

/-- The eight words as the standard has them. -/
def readWords (read : W → BitVec w) (s : EightWords W) : EightWords (BitVec w) :=
  ⟨read s.a, read s.b, read s.c, read s.d, read s.e, read s.f, read s.g, read s.h⟩

/-- The words of a function stand for bit vectors, and are computed with as the
standard computes with those. -/
structure Realizes (S : Sha2 W) (T : Standard.Sha2.Mixing w) (read : W → BitVec w) : Prop where
  wordSize : S.wordSize = w / 8
  ofNat : ∀ n, read (S.ofNat n) = BitVec.ofNat w n
  toNat : ∀ x, S.toNat x = (read x).toNat
  add : ∀ x y, read (S.add x y) = read x + read y
  and : ∀ x y, read (S.and x y) = read x &&& read y
  xor : ∀ x y, read (S.xor x y) = read x ^^^ read y
  not : ∀ x, read (S.not x) = ~~~read x
  bigSigma0 : ∀ x, read (S.rotations S.stateRotations.1 x) = T.bigSigma0 (read x)
  bigSigma1 : ∀ x, read (S.rotations S.stateRotations.2 x) = T.bigSigma1 (read x)
  smallSigma0 : ∀ x, read (S.mixed S.scheduleRotations.1 x) = T.smallSigma0 (read x)
  smallSigma1 : ∀ x, read (S.mixed S.scheduleRotations.2 x) = T.smallSigma1 (read x)
  start : readWords read S.start = (Standard.Sha2.function T).start
  constants : S.constants.map read = (List.range T.rounds).map (Standard.Sha2.constant w)

variable {S : Sha2 W} {T : Standard.Sha2.Mixing w}

theorem advance_eq (S : Sha2 W) (h : window.length = 16) :
    S.advance window = window.tail ++
      [S.add (S.add (S.mixed S.scheduleRotations.2 window[14]) window[9])
      (S.add (S.mixed S.scheduleRotations.1 window[1]) window[0])] := by
  match window, h with
  | [w0, w1, w2, w3, w4, w5, w6, w7, w8, w9, w10, w11, w12, w13, w14, w15], _ => rfl

theorem schedule_add (M : Nat → BitVec w) (t : Nat) :
    Standard.Sha2.schedule T M (t + 16) = T.smallSigma1 (Standard.Sha2.schedule T M (t + 14)) +
      Standard.Sha2.schedule T M (t + 9) + T.smallSigma0 (Standard.Sha2.schedule T M (t + 1)) +
        Standard.Sha2.schedule T M t := by
  rw [Standard.Sha2.schedule, if_neg (by omega)]
  rfl

/-- **The window runs through the schedule of the standard.** -/
theorem Realizes.shows_advance (h : S.Realizes T read)
    (hwindow : Shows read window (Standard.Sha2.schedule T M) t) :
    Shows read (S.advance window) (Standard.Sha2.schedule T M) (t + 1) := by
  rw [S.advance_eq hwindow.length]
  refine hwindow.advance ?_
  rw [h.add, h.add, h.add, h.smallSigma0, h.smallSigma1, hwindow.getElem 14, hwindow.getElem 9,
    hwindow.getElem 1, hwindow.getElem 0, schedule_add, Nat.add_zero]
  exact (BitVec.add_assoc _ _ _).symm

theorem Realizes.round (h : S.Realizes T read) (s : EightWords W) {constant word : W} {t : Nat}
    (hconstant : read constant = Standard.Sha2.constant w t) (hword : read word = X t) :
    readWords read (S.round s constant word) = Standard.Sha2.round T X (readWords read s) t := by
  unfold Sha2.round Standard.Sha2.round readWords choose majority
  simp only [h.add, h.and, h.xor, h.not, h.bigSigma0, h.bigSigma1, hconstant, hword]
  rfl

/-- **The rounds are those of the standard**, from any of them on. -/
theorem Realizes.rounds (h : S.Realizes T read) (s : EightWords W) {constants : List W} {n : Nat}
    (hconstants : constants.map read = (List.range' t n).map (Standard.Sha2.constant w))
    (hwindow : Shows read window (Standard.Sha2.schedule T M) t) :
    readWords read (S.rounds s window constants) =
      (List.range' t n).foldl (Standard.Sha2.round T (Standard.Sha2.schedule T M))
      (readWords read s) := by
  induction constants generalizing s window t n with
  | nil =>
    cases n with
    | zero => rfl
    | succ n => exact nomatch hconstants
  | cons constant constants ih =>
    cases n with
    | zero => exact nomatch hconstants
    | succ n =>
      rw [List.range'_succ, List.map_cons, List.map_cons, List.cons.injEq] at hconstants
      have hword := h.round s hconstants.1 (hwindow.front constant)
      rw [Sha2.rounds, ih _ hconstants.2 (h.shows_advance hwindow), hword, List.range'_succ,
        List.foldl_cons]

/-- **A function that realizes the standard conforms to it.** -/
theorem Realizes.conforms (h : S.Realizes T read) :
    S.blockHash.Conforms (Standard.Sha2.function T) (readWords read) where
  blockSize := by
    change 16 * S.wordSize = _
    rw [h.wordSize]
  lengthSize := by
    change 2 * S.wordSize = 2 * (w / 8)
    rw [h.wordSize]
  lengthField := by
    change bigEndian (2 * S.wordSize) = bigEndian (2 * (w / 8))
    rw [h.wordSize]
  start := h.start
  output s := by
    change [s.a, s.b, s.c, s.d, s.e, s.f, s.g, s.h].flatMap
      (fun x => bigEndian S.wordSize (S.toNat x)) =
      [read s.a, read s.b, read s.c, read s.d, read s.e, read s.f, read s.g, read s.h].flatMap
        fun x => bigEndian (w / 8) x.toNat
    simp only [List.flatMap_cons, h.toNat, h.wordSize]
    rfl
  absorb s block M hlength hM := by
    have hwindow : Shows read (S.words block) (Standard.Sha2.schedule T M) 0 :=
      shows_words h.wordSize (fun b => h.ofNat (ofBigEndian b)) hlength hM fun t ht => by
        rw [Standard.Sha2.schedule, if_pos ht]
    have hconstants : S.constants.map read =
        (List.range' 0 T.rounds).map (Standard.Sha2.constant w) := by
      rw [h.constants, List.range_eq_range']
    have hrounds := h.rounds s hconstants hwindow
    change readWords read (S.addWords s (S.rounds s (S.words block) S.constants)) =
      Standard.Sha2.compress T (readWords read s) M
    unfold Standard.Sha2.compress
    rw [List.range_eq_range', ← hrounds]
    simp only [Sha2.addWords, readWords, h.add]

/-! ## The two functions -/

section Rotations

variable (hxor : ∀ x y, read (S.xor x y) = read x ^^^ read y)
  (hrotate : ∀ n, 0 < n → n < w → ∀ x, read (S.rotateRight n x) = (read x).rotateRight n)

include hxor hrotate

theorem read_rotations {r : Nat × Nat × Nat} (hr : ∀ n ∈ [r.1, r.2.1, r.2.2], 0 < n ∧ n < w)
    (x : W) :
    read (S.rotations r x) =
      (read x).rotateRight r.1 ^^^ (read x).rotateRight r.2.1 ^^^ (read x).rotateRight r.2.2 := by
  simp only [List.forall_mem_cons] at hr
  obtain ⟨h1, h2, h3, -⟩ := hr
  rw [rotations, hxor, hxor, hrotate _ h1.1 h1.2, hrotate _ h2.1 h2.2, hrotate _ h3.1 h3.2]

theorem read_mixed (hshift : ∀ n, n < w → ∀ x, read (S.shiftRight n x) = read x >>> n)
    {r : Nat × Nat × Nat} (hr : ∀ n ∈ [r.1, r.2.1, r.2.2], 0 < n ∧ n < w) (x : W) :
    read (S.mixed r x) =
      (read x).rotateRight r.1 ^^^ (read x).rotateRight r.2.1 ^^^ read x >>> r.2.2 := by
  simp only [List.forall_mem_cons] at hr
  obtain ⟨h1, h2, h3, -⟩ := hr
  rw [mixed, hxor, hxor, hrotate _ h1.1 h1.2, hrotate _ h2.1 h2.2, hshift _ h3.2]

end Rotations

/-- The start, checked against the square roots of the first eight prime numbers. -/
theorem readWords_start {T : Standard.Sha2.Mixing w} {start : EightWords W}
    (hroots : ∀ entry ∈
      [start.a, start.b, start.c, start.d, start.e, start.f, start.g, start.h].zip Standard.primes,
      Standard.IsRoot 2 w entry.2 (read entry.1).toNat) :
    readWords read start = (Standard.Sha2.function T).start := by
  have hwords := Standard.map_rootBits_nth_prime read (by decide) (by simp) hroots
  simp only [List.length_cons, List.length_nil, List.range_eq_range', List.range',
    List.map_cons, List.map_nil, List.cons.injEq, and_true] at hwords
  obtain ⟨ha, hb, hc, hd, he, hf, hg, hh⟩ := hwords
  unfold readWords Standard.Sha2.function
  rw [ha, hb, hc, hd, he, hf, hg, hh]

end Sha2

/-- **SHA-256 realizes the standard.** -/
theorem sha256Parts_realizes : sha256Parts.Realizes Standard.Sha2.sha256 UInt32.toBitVec where
  wordSize := rfl
  ofNat n := rfl
  toNat x := rfl
  add x y := rfl
  and x y := rfl
  xor x y := rfl
  not x := rfl
  bigSigma0 := Sha2.read_rotations (fun _ _ => rfl) toBitVec_rotateRight32 (by decide)
  bigSigma1 := Sha2.read_rotations (fun _ _ => rfl) toBitVec_rotateRight32 (by decide)
  smallSigma0 :=
    Sha2.read_mixed (fun _ _ => rfl) toBitVec_rotateRight32 toBitVec_shiftRight32 (by decide)
  smallSigma1 :=
    Sha2.read_mixed (fun _ _ => rfl) toBitVec_rotateRight32 toBitVec_shiftRight32 (by decide)
  start := Sha2.readWords_start (by decide +kernel)
  constants := Standard.map_rootBits_nth_prime _ (by decide) (by decide) (by decide +kernel)

/-- **SHA-512 realizes the standard.** -/
theorem sha512Parts_realizes : sha512Parts.Realizes Standard.Sha2.sha512 UInt64.toBitVec where
  wordSize := rfl
  ofNat n := rfl
  toNat x := rfl
  add x y := rfl
  and x y := rfl
  xor x y := rfl
  not x := rfl
  bigSigma0 := Sha2.read_rotations (fun _ _ => rfl) toBitVec_rotateRight64 (by decide)
  bigSigma1 := Sha2.read_rotations (fun _ _ => rfl) toBitVec_rotateRight64 (by decide)
  smallSigma0 :=
    Sha2.read_mixed (fun _ _ => rfl) toBitVec_rotateRight64 toBitVec_shiftRight64 (by decide)
  smallSigma1 :=
    Sha2.read_mixed (fun _ _ => rfl) toBitVec_rotateRight64 toBitVec_shiftRight64 (by decide)
  start := Sha2.readWords_start (by decide +kernel)
  constants := Standard.map_rootBits_nth_prime _ (by decide) (by decide) (by decide +kernel)

end ReleaseCatalog.Digest
