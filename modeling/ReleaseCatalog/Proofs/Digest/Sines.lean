import Mathlib.Analysis.SpecialFunctions.Exp
import ReleaseCatalog.Digest.Md5
import ReleaseCatalog.Proofs.Digest.Standard

/-!
# The table of sines

The constants of MD5 are whole parts of multiples of the sines of the whole numbers
from one on. The point of the unit circle at the angle one is enclosed by the first
forty terms of the exponential series, and the points at its multiples are powers
of it. What is left to decide are inequalities between rational numbers.

* `norm_exp_sub_le`: how far the sum is from the point at the angle one.
* `norm_pow_sub_pow_le`: the distance of the powers, which doubles at most with
  each factor.
* `sine_eq`: an entry of the table, from the power and its distance.
* `map_sines`: the whole table, from its entries one after another.
-/

namespace ReleaseCatalog.Digest.Standard.Md5

open Complex

/-- The terms of the cosine series at one. -/
def cosineSum : ℕ → ℚ
  | 0 => 0
  | k + 1 => cosineSum k + (-1) ^ k / (Nat.factorial (2 * k) : ℚ)

/-- The terms of the sine series at one. -/
def sineSum : ℕ → ℚ
  | 0 => 0
  | k + 1 => sineSum k + (-1) ^ k / (Nat.factorial (2 * k + 1) : ℚ)

/-- A pair of rational numbers as a complex number. -/
def point (p : ℚ × ℚ) : ℂ := (p.1 : ℂ) + (p.2 : ℂ) * I

/-- The approximate point at the angle one. -/
def turn : ℚ × ℚ := (cosineSum 20, sineSum 20)

/-- How far it is off at most. -/
def slack : ℚ := 2 / (Nat.factorial 40 : ℚ)

theorem sum_exp_series (k : ℕ) :
    ∑ m ∈ Finset.range (2 * k), I ^ m / (Nat.factorial m : ℂ) = point (cosineSum k, sineSum k) := by
  unfold point
  induction k with
  | zero => simp [cosineSum, sineSum]
  | succ k ih =>
    have heven : I ^ (2 * k) = (-1) ^ k := by rw [pow_mul, I_sq]
    have hodd : I ^ (2 * k + 1) = (-1) ^ k * I := by rw [pow_succ, heven]
    rw [Nat.mul_succ, Finset.sum_range_succ, Finset.sum_range_succ, ih, heven, hodd,
      cosineSum, sineSum]
    push_cast
    ring

/-- **The sum of the first forty terms is close to the point at the angle one.** -/
theorem norm_exp_sub_le : ‖exp I - point turn‖ ≤ (slack : ℝ) := by
  have hbound := exp_bound (x := I) norm_I.le (n := 40) (by decide)
  have hsum := sum_exp_series 20
  rw [norm_I, one_pow, one_mul, hsum] at hbound
  refine hbound.trans ?_
  unfold slack
  push_cast
  rw [← div_eq_mul_inv, div_le_div_iff₀ (by positivity) (by positivity)]
  have hpos : (0 : ℝ) < (Nat.factorial 40 : ℝ) := by positivity
  nlinarith

/-- **The distance of two powers doubles at most with each factor.** -/
theorem norm_pow_sub_pow_le {w z : ℂ} {δ : ℝ} (hw : ‖w‖ = 1) (hδ : ‖w - z‖ ≤ δ) (hsmall : δ ≤ 1)
    (n : ℕ) :
    ‖w ^ n - z ^ n‖ ≤ (2 ^ n - 1) * δ := by
  have hz : ‖z‖ ≤ 2 := by
    have htriangle := norm_sub_le w (w - z)
    rw [sub_sub_cancel, hw] at htriangle
    linarith
  induction n with
  | zero => simp
  | succ n ih =>
    -- the next powers are apart by their last factors, and by the powers before
    have hsplit : w ^ (n + 1) - z ^ (n + 1) = w ^ n * (w - z) + (w ^ n - z ^ n) * z := by ring
    have hnext : ‖w ^ n * (w - z)‖ ≤ δ := by
      rw [norm_mul, norm_pow, hw, one_pow, one_mul]
      exact hδ
    have hrest : ‖(w ^ n - z ^ n) * z‖ ≤ (2 ^ n - 1) * δ * 2 := by
      rw [norm_mul]
      exact mul_le_mul ih hz (norm_nonneg z) ((norm_nonneg _).trans ih)
    calc ‖w ^ (n + 1) - z ^ (n + 1)‖
        ≤ ‖w ^ n * (w - z)‖ + ‖(w ^ n - z ^ n) * z‖ := hsplit ▸ norm_add_le _ _
      _ ≤ δ + (2 ^ n - 1) * δ * 2 := add_le_add hnext hrest
      _ = (2 ^ (n + 1) - 1) * δ := by ring

/-- The sine of a whole number is close to the height of the power. -/
theorem abs_sin_sub_le {n : ℕ} {p : ℚ × ℚ} (hp : point p = point turn ^ n) :
    |Real.sin n - p.2| ≤ 2 ^ n * (slack : ℝ) := by
  have hone : ‖exp I‖ = 1 := by simpa using norm_exp_ofReal_mul_I 1
  have hslack : (slack : ℝ) ≤ 1 := by exact_mod_cast (by decide +kernel : slack ≤ 1)
  have hpositive : (0 : ℝ) ≤ slack := by exact_mod_cast (by decide +kernel : 0 ≤ slack)
  have hpowers := norm_pow_sub_pow_le hone norm_exp_sub_le hslack n
  have hsine : (exp I ^ n).im = Real.sin n := by
    rw [← exp_nat_mul, ← exp_ofReal_mul_I_im]
    push_cast
    rfl
  have hheight : (point p).im = p.2 := by simp [point]
  have him : |(exp I ^ n - point p).im| ≤ ‖exp I ^ n - point p‖ := abs_im_le_norm _
  rw [sub_im, hsine, hheight, hp] at him
  nlinarith

/-- The whole part of the multiple of a sine, by rational numbers. -/
def IsSine (entry n : ℕ) (height : ℚ) : Prop :=
  entry + 4294967296 * 2 ^ n * slack ≤ 4294967296 * |height| ∧
    4294967296 * |height| + 4294967296 * 2 ^ n * slack < entry + 1

instance (entry n : ℕ) (height : ℚ) : Decidable (IsSine entry n height) :=
  inferInstanceAs (Decidable (_ ∧ _))

/-- **An entry of the table.** -/
theorem sine_eq {n entry : ℕ} {p : ℚ × ℚ} (hp : point p = point turn ^ n) (h : IsSine entry n p.2) :
    sine n = BitVec.ofNat 32 entry := by
  have hclose : |(|Real.sin n| - |(p.2 : ℝ)|)| ≤ 2 ^ n * (slack : ℝ) :=
    (abs_abs_sub_abs_le_abs_sub _ _).trans (abs_sin_sub_le hp)
  obtain ⟨hlow, hhigh⟩ := abs_le.1 hclose
  have hfloor : ⌊4294967296 * |Real.sin n|⌋₊ = entry := by
    have hleast : (entry : ℝ) + 4294967296 * 2 ^ n * slack ≤ 4294967296 * |(p.2 : ℝ)| := by
      exact_mod_cast h.1
    have hmost : 4294967296 * |(p.2 : ℝ)| + 4294967296 * 2 ^ n * slack < (entry : ℝ) + 1 := by
      exact_mod_cast h.2
    rw [Nat.floor_eq_iff (by positivity)]
    constructor <;> linarith
  rw [sine, hfloor]

/-- The entries are those of the table from a number on. -/
def AreSines : List UInt32 → ℕ → ℚ × ℚ → Prop
  | [], _, _ => True
  | entry :: rest, n, p =>
    IsSine entry.toNat n p.2 ∧
      AreSines rest (n + 1) (p.1 * turn.1 - p.2 * turn.2, p.1 * turn.2 + p.2 * turn.1)

instance decidableAreSines :
    (table : List UInt32) → (n : ℕ) → (p : ℚ × ℚ) → Decidable (AreSines table n p)
  | [], _, _ => inferInstanceAs (Decidable True)
  | _ :: rest, n, _ =>
    have := decidableAreSines rest (n + 1)
    inferInstanceAs (Decidable (_ ∧ _))

/-- **The whole table**, from its entries one after another. -/
theorem map_sines {table : List UInt32} {n : ℕ} {p : ℚ × ℚ} (hp : point p = point turn ^ n)
    (h : AreSines table n p) :
    table.map UInt32.toBitVec = (List.range' n table.length).map sine := by
  induction table generalizing n p with
  | nil => rfl
  | cons entry rest ih =>
    have hnext : point (p.1 * turn.1 - p.2 * turn.2, p.1 * turn.2 + p.2 * turn.1) =
        point turn ^ (n + 1) := by
      rw [pow_succ, ← hp]
      unfold point
      push_cast
      linear_combination (p.2 : ℂ) * turn.2 * (-I_sq)
    have hentry : BitVec.ofNat 32 entry.toNat = entry.toBitVec :=
      (BitVec.ofNat_toNat 32 _).trans (BitVec.setWidth_eq _)
    rw [List.length_cons, List.range'_succ, List.map_cons, List.map_cons, ih hnext h.2,
      sine_eq hp h.1, hentry]

/-- **The constants of the rounds are the sines.** -/
theorem map_toBitVec_sines : Digest.Md5.sines.map UInt32.toBitVec = (List.range' 1 64).map sine :=
  map_sines (pow_one _).symm (by decide +kernel : AreSines Digest.Md5.sines 1 turn)

end ReleaseCatalog.Digest.Standard.Md5
