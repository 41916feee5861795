import Mathlib.Data.Nat.Prime.Basic
import ReleaseCatalog.Proofs.Digest.Standard

/-!
# Roots of prime numbers

The constants of SHA-256 and SHA-512 are bits of roots of the first eighty prime
numbers. Whether a number holds those bits is decided by powers of whole numbers.

* `map_nth_prime`: the prime numbers below a bound are the first ones.
* `nth_prime_primes`: the first eighty prime numbers.
* `rootBits_eq`: the bits of a root, from two powers that enclose the number.
* `map_rootBits`: a table of roots, from the same for each of its entries.
-/

namespace ReleaseCatalog.Digest.Standard

/-! ## Prime numbers -/

/-- The first eighty prime numbers. -/
def primes : List Nat :=
  [2, 3, 5, 7, 11, 13, 17, 19, 23, 29, 31, 37, 41, 43, 47, 53, 59, 61, 67, 71, 73, 79, 83, 89, 97,
   101, 103, 107, 109, 113, 127, 131, 137, 139, 149, 151, 157, 163, 167, 173, 179, 181, 191, 193,
   197, 199, 211, 223, 227, 229, 233, 239, 241, 251, 257, 263, 269, 271, 277, 281, 283, 293, 307,
   311, 313, 317, 331, 337, 347, 349, 353, 359, 367, 373, 379, 383, 389, 397, 401, 409]

/-- No smaller number from two to twenty divides the number. -/
def Undivided (n : Nat) : Prop := 2 ≤ n ∧ ∀ m ∈ List.range' 2 19, m < n → ¬ m ∣ n

instance (n : Nat) : Decidable (Undivided n) := inferInstanceAs (Decidable (_ ∧ _))

/-- Twenty is enough, as a number that is not prime has a factor whose square is
not greater. -/
theorem prime_iff_undivided {n : Nat} (hn : n < 441) : n.Prime ↔ Undivided n := by
  constructor
  · intro hprime
    refine ⟨hprime.two_le, fun m hm hlt hdvd => ?_⟩
    have hone : m = 1 ∨ m = n := (Nat.dvd_prime hprime).1 hdvd
    have htwo : 2 ≤ m := (List.mem_range'_1.1 hm).1
    omega
  · rintro ⟨htwo, hundivided⟩
    by_contra hnot
    have hsquare : n.minFac ^ 2 ≤ n := Nat.minFac_sq_le_self (by omega) hnot
    have hfactor : 2 ≤ n.minFac := (Nat.minFac_prime (by omega)).two_le
    -- a factor from 21 on would have a square from 441 on
    have hsmall : n.minFac ≤ 20 := by
      by_contra hlarge
      have hpow : 21 ^ 2 ≤ n.minFac ^ 2 := Nat.pow_le_pow_left (by omega) 2
      omega
    exact hundivided n.minFac (List.mem_range'_1.2 (by omega)) (by nlinarith) (Nat.minFac_dvd n)

/-- **The prime numbers below a bound are the first ones.** -/
theorem map_nth_prime (n : Nat) :
    (List.range (Nat.count Nat.Prime n)).map (Nat.nth Nat.Prime) =
      (List.range n).filter (Nat.Prime ·) := by
  induction n with
  | zero => rfl
  | succ n ih =>
    by_cases hn : n.Prime
    · rw [Nat.count_succ, if_pos hn, List.range_succ, List.map_append, ih, List.map_singleton,
        Nat.nth_count hn, List.range_succ, List.filter_append,
        List.filter_cons_of_pos (by simpa using hn), List.filter_nil]
    · rw [Nat.count_succ, if_neg hn, Nat.add_zero, ih, List.range_succ, List.filter_append,
        List.filter_cons_of_neg (by simpa using hn), List.filter_nil, List.append_nil]

/-- **The first eighty prime numbers.** -/
theorem nth_prime_primes : (List.range 80).map (Nat.nth Nat.Prime) = primes := by
  have hbelow : (List.range 410).filter (Nat.Prime ·) = primes := by
    have hundivided : (List.range 410).filter (Undivided ·) = primes := by decide +kernel
    rw [← hundivided]
    refine List.filter_congr fun n hn => ?_
    have hlt : n < 441 := Nat.lt_trans (List.mem_range.1 hn) (by decide)
    exact decide_eq_decide.2 (prime_iff_undivided hlt)
  have hfirst := map_nth_prime 410
  rw [hbelow] at hfirst
  have hcount : Nat.count Nat.Prime 410 = 80 := by
    simpa [primes] using congrArg List.length hfirst
  rw [← hcount, hfirst]

/-! ## Roots -/

/-- A number holds the first `w` bits behind the point of a root, which is below
eight. -/
def IsRoot (k w n bits : Nat) : Prop :=
  ∃ whole ∈ List.range 8,
    (whole * 2 ^ w + bits) ^ k ≤ n * 2 ^ (k * w) ∧ n * 2 ^ (k * w) < (whole * 2 ^ w + bits + 1) ^ k

instance (k w n bits : Nat) : Decidable (IsRoot k w n bits) :=
  inferInstanceAs (Decidable (∃ whole ∈ List.range 8, _))

variable {k w : Nat}

/-- **The bits of a root**, from two powers that enclose the number. -/
theorem rootBits_eq (hk : k ≠ 0) {n bits : Nat} (h : IsRoot k w n bits) :
    rootBits k w n = BitVec.ofNat w bits := by
  obtain ⟨whole, -, hle, hlt⟩ := h
  -- the search for the root ends at this number, which no root exceeds
  have hbound : whole * 2 ^ w + bits ≤ n * 2 ^ w := by
    by_contra hgreater
    have hpow : (n * 2 ^ w + 1) ^ k ≤ (whole * 2 ^ w + bits) ^ k := Nat.pow_le_pow_left (by omega) k
    have hnumber : n * 2 ^ (k * w) ≤ (n * 2 ^ w) ^ k := by
      rw [Nat.mul_pow, ← Nat.pow_mul, Nat.mul_comm w k]
      exact Nat.mul_le_mul_right _ (Nat.le_self_pow hk n)
    have hstrict : (n * 2 ^ w) ^ k < (n * 2 ^ w + 1) ^ k :=
      Nat.pow_lt_pow_left (Nat.lt_succ_self _) hk
    omega
  have hgreatest : Nat.findGreatest (fun r => r ^ k ≤ n * 2 ^ (k * w)) (n * 2 ^ w) =
      whole * 2 ^ w + bits := by
    refine Nat.findGreatest_eq_iff.2 ⟨hbound, fun _ => hle, fun r hr _ hpow => ?_⟩
    have hmono : (whole * 2 ^ w + bits + 1) ^ k ≤ r ^ k := Nat.pow_le_pow_left hr k
    omega
  rw [rootBits, hgreatest]
  apply BitVec.eq_of_toNat_eq
  rw [BitVec.toNat_ofNat, BitVec.toNat_ofNat, Nat.mul_add_mod_self_right]

/-- **A table of roots of numbers**, checked one by one. -/
theorem map_rootBits {W : Type} (read : W → BitVec w) (hk : k ≠ 0) {table : List W}
    {numbers : List Nat} (hlength : table.length ≤ numbers.length)
    (htable : ∀ entry ∈ table.zip numbers, IsRoot k w entry.2 (read entry.1).toNat) :
    table.map read = (numbers.take table.length).map (rootBits k w) := by
  induction table generalizing numbers with
  | nil => rfl
  | cons x table ih =>
    cases numbers with
    | nil => exact absurd hlength (by simp)
    | cons n numbers =>
      obtain ⟨hx, htable⟩ := List.forall_mem_cons.1 htable
      rw [List.length_cons, List.take_succ_cons, List.map_cons, List.map_cons,
        ih (Nat.le_of_succ_le_succ hlength) htable, rootBits_eq hk hx, BitVec.ofNat_toNat,
        BitVec.setWidth_eq]

/-- A table of roots of the first prime numbers. -/
theorem map_rootBits_nth_prime {W : Type} (read : W → BitVec w) (hk : k ≠ 0) {table : List W}
    (hlength : table.length ≤ 80)
    (htable : ∀ entry ∈ table.zip primes, IsRoot k w entry.2 (read entry.1).toNat) :
    table.map read = (List.range table.length).map fun t => rootBits k w (Nat.nth Nat.Prime t) := by
  rw [map_rootBits read hk hlength htable, ← nth_prime_primes, ← List.map_take, List.take_range,
    Nat.min_eq_left hlength, List.map_map]
  rfl

end ReleaseCatalog.Digest.Standard
