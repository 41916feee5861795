import Mathlib.Algebra.Group.Nat.Defs
import Mathlib.Data.List.Induction
import ReleaseCatalog.Proofs.Text.Digits

/-!
# Numbers of a fixed width

Numbers that are written with zeros in front up to one width are in the order of
their texts.

* `natOfDigits_paddedDigits`: zeros in front do not change the number that is read.
* `length_paddedDigits`: a number that has no more digits than that is as wide
  as asked for.
* `compareLex_append`: of texts that begin equally wide, the beginnings are
  compared first.
* `compareLex_paddedDigits`: texts of one width are in the order of the numbers.
* `compare_eq_compareLex`: strings are compared character by character.
-/

namespace ReleaseCatalog.Text

open Std

variable {m n width : Nat} {s t p q : List Char}

theorem paddedDigits_isDigit (width n : Nat) : ∀ c ∈ paddedDigits width n, isDigit c = true := by
  intro c hc
  rcases List.mem_append.1 hc with hzero | hdigit
  · rw [List.eq_of_mem_replicate hzero]
    decide
  · exact digits_isDigit n c hdigit

theorem paddedDigits_ne_nil (width n : Nat) : paddedDigits width n ≠ [] :=
  List.append_ne_nil_of_right_ne_nil _ (digits_ne_nil n)

/-- A number begins with a digit, whatever stands behind it. -/
theorem exists_cons_paddedDigits (width n : Nat) (rest : List Char) :
    ∃ c s, paddedDigits width n ++ rest = c :: s ∧ isDigit c = true := by
  obtain ⟨c, s, hcs⟩ := List.exists_cons_of_ne_nil (paddedDigits_ne_nil width n)
  refine ⟨c, s ++ rest, ?_, ?_⟩
  · rw [hcs, List.cons_append]
  · apply paddedDigits_isDigit width n
    rw [hcs]
    exact List.mem_cons_self

/-- A number ends with a digit. -/
theorem exists_concat_paddedDigits (width n : Nat) :
    ∃ s c, paddedDigits width n = s ++ [c] ∧ isDigit c = true := by
  have hne := paddedDigits_ne_nil width n
  refine ⟨_, _, (List.dropLast_concat_getLast hne).symm, ?_⟩
  exact paddedDigits_isDigit width n _ (List.getLast_mem hne)

theorem natOfDigits_concat (s : List Char) (c : Char) :
    natOfDigits (s ++ [c]) = 10 * natOfDigits s + digitValue c := by
  unfold natOfDigits
  rw [List.foldl_append, List.foldl_cons, List.foldl_nil]

theorem digitValue_lt {c : Char} (h : isDigit c = true) : digitValue c < 10 := by
  have hcode := toNat_of_isDigit h
  have hzero : '0'.toNat = 48 := rfl
  unfold digitValue
  omega

theorem natOfDigits_lt (h : ∀ c ∈ s, isDigit c = true) : natOfDigits s < 10 ^ s.length := by
  induction s using List.reverseRecOn with
  | nil => decide
  | append_singleton s c ih =>
    have hs := ih fun x hx => h x (List.mem_append_left _ hx)
    have hc := digitValue_lt (h c (List.mem_append_right _ List.mem_cons_self))
    rw [natOfDigits_concat, List.length_append, List.length_singleton, Nat.pow_succ]
    omega

/-- **Zeros in front do not change a number.** -/
theorem natOfDigits_paddedDigits (width n : Nat) : natOfDigits (paddedDigits width n) = n := by
  have hzeros : ∀ k, natOfDigits (List.replicate k '0') = 0 := by
    intro k
    induction k with
    | zero => rfl
    | succ k ih =>
      rw [List.replicate_succ', natOfDigits_concat, ih]
      rfl
  have hdigits := natOfDigits_digits n
  unfold paddedDigits natOfDigits at *
  rw [List.foldl_append, hzeros]
  exact hdigits

theorem length_paddedDigits (hwidth : 0 < width) (hn : n < 10 ^ width) :
    (paddedDigits width n).length = width := by
  have hdigits : (digits n).length ≤ width := (Nat.length_toDigits_le_iff (by decide) hwidth).2 hn
  rw [paddedDigits, List.length_append, List.length_replicate]
  omega

/-- One more digit is put at the end. -/
theorem paddedDigits_succ (hwidth : 0 < width) (n : Nat) :
    paddedDigits (width + 1) n = paddedDigits width (n / 10) ++ [(n % 10).digitChar] := by
  rcases Nat.lt_or_ge n 10 with hn | hn
  · have hzero : digits 0 = ['0'] := rfl
    have hquotient : n / 10 = 0 := by omega
    have hremainder : n % 10 = n := by omega
    have hwide : List.replicate width '0' = List.replicate (width - 1) '0' ++ ['0'] := by
      rw [← List.replicate_succ', Nat.sub_add_cancel hwidth]
    unfold paddedDigits
    rw [digits_of_lt hn, hquotient, hremainder, hzero]
    simp only [List.length_singleton, Nat.add_sub_cancel, hwide]
  · unfold paddedDigits
    rw [digits_of_le hn, List.length_append, List.length_singleton, Nat.add_sub_add_right,
      List.append_assoc]

/-- **Texts that begin equally wide are compared by their beginnings first.** -/
theorem compareLex_append (hlength : p.length = q.length) :
    List.compareLex Ord.compare (p ++ s) (q ++ t) =
      (List.compareLex Ord.compare p q).then (List.compareLex Ord.compare s t) := by
  induction p generalizing q with
  | nil =>
    obtain rfl := List.length_eq_zero_iff.1 hlength.symm
    rfl
  | cons a p ih =>
    cases q with
    | nil => exact nomatch hlength
    | cons b q =>
      have hrest := ih (Nat.succ.inj hlength)
      rw [List.cons_append, List.cons_append, List.compareLex_cons_cons,
        List.compareLex_cons_cons, hrest, Ordering.then_assoc]

theorem compare_div_mod (m n : Nat) :
    Ord.compare m n = (Ord.compare (m / 10) (n / 10)).then (Ord.compare (m % 10) (n % 10)) := by
  rcases Nat.lt_trichotomy (m / 10) (n / 10) with hlt | heq | hgt
  · have hlt' : m < n := by omega
    rw [Nat.compare_eq_lt.2 hlt, Nat.compare_eq_lt.2 hlt']
    rfl
  · rw [Nat.compare_eq_eq.2 heq, Ordering.eq_then]
    simp only [Nat.compare_eq_ite_lt]
    have hlt : m % 10 < n % 10 ↔ m < n := by omega
    have hgt : n % 10 < m % 10 ↔ n < m := by omega
    simp only [hlt, hgt]
  · have hgt' : n < m := by omega
    rw [Nat.compare_eq_gt.2 hgt, Nat.compare_eq_gt.2 hgt']
    rfl

theorem compare_digitChar :
    ∀ m < 10, ∀ n < 10, Ord.compare m.digitChar n.digitChar = Ord.compare m n := by decide

/-- **Numbers of one width are in the order of their texts.** -/
theorem compareLex_paddedDigits (hwidth : 0 < width) (hm : m < 10 ^ width) (hn : n < 10 ^ width) :
    List.compareLex Ord.compare (paddedDigits width m) (paddedDigits width n) =
      Ord.compare m n := by
  induction width generalizing m n with
  | zero => exact absurd hwidth (Nat.lt_irrefl 0)
  | succ width ih =>
    -- the last digit is the remainder, and those before it are the quotient at one
    -- digit less
    have hlast : List.compareLex Ord.compare [(m % 10).digitChar] [(n % 10).digitChar] =
        Ord.compare (m % 10) (n % 10) := by
      rw [List.compareLex_cons_cons, compare_digitChar _ (by omega) _ (by omega)]
      exact Ordering.then_eq
    rcases Nat.eq_zero_or_pos width with rfl | hpos
    · rw [Nat.zero_add, Nat.pow_one] at hm hn
      rw [Nat.mod_eq_of_lt hm, Nat.mod_eq_of_lt hn] at hlast
      rw [paddedDigits, paddedDigits, digits_of_lt hm, digits_of_lt hn]
      exact hlast
    · have hm' : m / 10 < 10 ^ width := Nat.div_lt_of_lt_mul (by rwa [Nat.mul_comm, ← Nat.pow_succ])
      have hn' : n / 10 < 10 ^ width := Nat.div_lt_of_lt_mul (by rwa [Nat.mul_comm, ← Nat.pow_succ])
      have hlength : (paddedDigits width (m / 10)).length =
          (paddedDigits width (n / 10)).length := by
        rw [length_paddedDigits hpos hm', length_paddedDigits hpos hn']
      rw [paddedDigits_succ hpos, paddedDigits_succ hpos, compareLex_append hlength,
        ih hpos hm' hn', hlast, ← compare_div_mod]

theorem compareLex_paddedDigits_append (hwidth : 0 < width) (hm : m < 10 ^ width)
    (hn : n < 10 ^ width) (s t : List Char) :
    List.compareLex Ord.compare (paddedDigits width m ++ s) (paddedDigits width n ++ t) =
      (Ord.compare m n).then (List.compareLex Ord.compare s t) := by
  have hlength : (paddedDigits width m).length = (paddedDigits width n).length := by
    rw [length_paddedDigits hwidth hm, length_paddedDigits hwidth hn]
  rw [compareLex_append hlength, compareLex_paddedDigits hwidth hm hn]

/-- A mark that both texts begin with decides nothing. -/
theorem compareLex_cons_self (c : Char) (s t : List Char) :
    List.compareLex Ord.compare (c :: s) (c :: t) = List.compareLex Ord.compare s t := by
  have hself : Ord.compare c c = .eq := ReflCmp.compare_self
  rw [List.compareLex_cons_cons, hself, Ordering.eq_then]

/-- Comparing character by character is the order of the texts. -/
theorem compareLex_eq (s t : List Char) :
    List.compareLex Ord.compare s t = if s < t then .lt else if s = t then .eq else .gt := by
  induction s generalizing t with
  | nil =>
    cases t with
    | nil => rfl
    | cons b t => rfl
  | cons a s ih =>
    cases t with
    | nil => rfl
    | cons b t =>
      have hchar : Ord.compare a b = if a < b then .lt else if a = b then .eq else .gt := rfl
      rw [List.compareLex_cons_cons, ih, hchar]
      simp only [List.cons_lt_cons_iff, List.cons.injEq]
      by_cases hlt : a < b
      · simp [hlt]
      · by_cases heq : a = b
        · simp [heq]
        · simp [hlt, heq]

/-- **Strings are compared character by character.** -/
theorem compare_eq_compareLex (x y : String) :
    Ord.compare x y = List.compareLex Ord.compare x.toList y.toList := by
  have hstrings : Ord.compare x y = if x < y then .lt else if x = y then .eq else .gt := rfl
  have hlt : x < y ↔ x.toList < y.toList := Iff.rfl
  rw [hstrings, compareLex_eq]
  simp only [hlt, ← String.toList_inj]

end ReleaseCatalog.Text
