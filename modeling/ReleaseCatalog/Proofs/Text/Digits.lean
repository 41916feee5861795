import ReleaseCatalog.Text.Blank
import ReleaseCatalog.Text.Decimal

/-!
# Numbers in base ten

* `natOfDigits_digits`: reading the digits of a number gives the number.
* `digits_isDigit`: they are ASCII digits, and there is at least one.
* `head?_digits`: only zero starts with a zero.
* `isBlank_of_isDecimal`: no decimal digit of any script is a blank.
-/

namespace ReleaseCatalog.Text

/-- **Reading what was written.** -/
theorem natOfDigits_digits (n : Nat) : natOfDigits (digits n) = n :=
  Nat.ofDigitChars_toDigits (by omega) (by omega)

theorem isDigit_of_isDigit {c : Char} (h : c.isDigit = true) : isDigit c = true := by
  simpa [isDigit, Char.isDigit, Char.le_def] using h

theorem digits_isDigit (n : Nat) : ∀ c ∈ digits n, isDigit c = true := by
  intro c hc
  exact isDigit_of_isDigit (Nat.isDigit_of_mem_toDigits (by omega) (by omega) hc)

theorem digits_ne_nil (n : Nat) : digits n ≠ [] := Nat.toDigits_ne_nil

theorem digits_of_lt {n : Nat} (h : n < 10) : digits n = [n.digitChar] :=
  Nat.toDigits_of_lt_base h

theorem digits_of_le {n : Nat} (h : 10 ≤ n) :
    digits n = digits (n / 10) ++ [(n % 10).digitChar] :=
  Nat.toDigits_of_base_le (by omega) h

theorem digitChar_ne_zero : ∀ d, d < 10 → d ≠ 0 → d.digitChar ≠ '0' := by decide

/-- **No leading zeros.** -/
theorem head?_digits (n : Nat) (hn : n ≠ 0) : (digits n).head? ≠ some '0' := by
  induction n using Nat.strongRecOn with
  | _ n ih =>
    rcases Nat.lt_or_ge n 10 with h | h
    · rw [digits_of_lt h, List.head?_cons]
      intro heq
      exact digitChar_ne_zero n h hn (Option.some.inj heq)
    · have hd := ih (n / 10) (by omega) (by omega)
      have hne := digits_ne_nil (n / 10)
      rw [digits_of_le h, List.head?_append]
      cases hs : digits (n / 10) with
      | nil => exact absurd hs hne
      | cons c s => rw [hs] at hd; simpa using hd

/-- The codes of the ASCII digits. -/
theorem toNat_of_isDigit {c : Char} (h : isDigit c = true) : 48 ≤ c.toNat ∧ c.toNat ≤ 57 := by
  simpa [isDigit, Char.le_def, UInt32.le_iff_toNat_le] using h

theorem isDecimal_of_isDigit {c : Char} (h : isDigit c = true) : isDecimal c = true := by
  have hcode := toNat_of_isDigit h
  have hascii : 0x30 ≤ c.toNat ∧ c.toNat < 0x30 + 10 := by omega
  exact List.any_eq_true.2 ⟨0x30, by decide, by simpa using hascii⟩

/-- **No decimal digit is a blank.** -/
theorem isBlank_of_isDecimal {c : Char} (h : isDecimal c = true) : isBlank c = false := by
  have hapart : ∀ z ∈ decimalZeros, ∀ r ∈ blankRanges, z + 10 ≤ r.1 ∨ r.2 < z := by decide
  obtain ⟨z, hz, hc⟩ := List.any_eq_true.1 h
  refine Bool.eq_false_iff.2 fun hblank => ?_
  obtain ⟨r, hr, hin⟩ := inRanges_iff.1 hblank
  have hzr := hapart z hz r hr
  simp only [Bool.and_eq_true, decide_eq_true_eq] at hc
  omega

end ReleaseCatalog.Text
