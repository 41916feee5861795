import ReleaseCatalog.Proofs.Text.Lower

/-!
# Lower case for the second time

A text in lower case has no character left that lower case changes: no run of
the mapping leads into a run of it, none leads to the dotted capital I, and
neither form of a small sigma is a capital. So what stands around a sigma does
not matter the second time, and the text stays as it is.

* `capitalRuns_missed`: the mapping leads out of its own runs.
* `isLowered_of_mem_lowerAt`: lower case leaves alone what any character
  becomes, whatever stands around it.
* `lower_lower`, `plainName_plainName`: the lower case of a text and a plain
  name are their own.
-/

namespace ReleaseCatalog.Text

variable {c x : Char} {s before after : List Char} {r q : CaseRun} {code : Nat}

theorem CaseRun.holds_iff :
    r.holds code = true ↔ r.first ≤ code ∧ code ≤ r.last ∧ r.step ∣ code - r.first := by
  rw [holds, Bool.and_eq_true, Bool.and_eq_true, decide_eq_true_iff, decide_eq_true_iff,
    beq_iff_eq, and_assoc, Nat.dvd_iff_mod_eq_zero]

/-- The code point that a code point of the run is mapped to. -/
def CaseRun.target (r : CaseRun) (code : Nat) : Nat := ((code : Int) + r.shift).toNat

/-- The mapping of a run leads out of another one: below it, above it, or
between its steps. -/
def CaseRun.misses (r q : CaseRun) : Bool :=
  -- the tests of `Nat` itself, since the table is checked in the kernel
  Nat.blt (r.target r.last) q.first || Nat.blt q.last (r.target r.first) ||
    ((r.first == r.last || r.step % q.step == 0) &&
      (Nat.ble q.first (r.target r.first) && !((r.target r.first - q.first) % q.step == 0)))

theorem CaseRun.misses_iff :
    r.misses q = true ↔ r.target r.last < q.first ∨ q.last < r.target r.first ∨
      (r.first = r.last ∨ q.step ∣ r.step) ∧ q.first ≤ r.target r.first ∧
      ¬ q.step ∣ r.target r.first - q.first := by
  simp only [misses, Bool.or_eq_true, Bool.and_eq_true, Nat.blt_eq, Nat.ble_eq, beq_iff_eq,
    Bool.not_eq_true', beq_eq_false_iff_ne, ne_eq, Nat.dvd_iff_mod_eq_zero, or_assoc]

/-- **A run that is missed holds nothing that the mapping leads to.** -/
theorem CaseRun.not_holds_target (hmisses : r.misses q = true) (hholds : r.holds code = true) :
    q.holds (r.target code) = false := by
  obtain ⟨hfirst, hlast, hstep⟩ := holds_iff.1 hholds
  have hlow : r.target r.first ≤ r.target code := Int.toNat_le_toNat (by omega)
  have hhigh : r.target code ≤ r.target r.last := Int.toNat_le_toNat (by omega)
  apply Bool.eq_false_iff.2
  intro hq
  obtain ⟨hqfirst, hqlast, hqstep⟩ := holds_iff.1 hq
  rcases misses_iff.1 hmisses with hbelow | habove | ⟨hsteps, hbegin, hbetween⟩
  · omega
  · omega
  · -- all that the mapping leads to is equally far from the steps of the other run
    have hdistance : q.step ∣ code - r.first := by
      rcases hsteps with hsingle | hsteps
      · have hself : code - r.first = 0 := by omega
        rw [hself]
        exact Nat.dvd_zero q.step
      · exact Nat.dvd_trans hsteps hstep
    have hinside : r.target r.first ≠ q.first := by
      intro heq
      rw [heq, Nat.sub_self] at hbetween
      exact hbetween (Nat.dvd_zero q.step)
    have hsum : r.target code - q.first = (r.target r.first - q.first) + (code - r.first) := by
      unfold target at hbegin hinside ⊢
      omega
    rw [hsum] at hqstep
    exact hbetween ((Nat.dvd_add_left hdistance).1 hqstep)

/-- The runs of all characters that are not their own lower case, the dotted
capital I among them. -/
def capitalRuns : List CaseRun := ⟨0x130, 0x130, 1, 0⟩ :: lowerRuns

/-- **The mapping leads out of the runs.** -/
theorem capitalRuns_missed : (lowerRuns.all fun r => capitalRuns.all r.misses) = true := by
  decide +kernel

/-- The character is none of those that lower case changes. -/
def IsLowered (c : Char) : Prop := ∀ r ∈ capitalRuns, r.holds c.toNat = false

instance (c : Char) : Decidable (IsLowered c) := inferInstanceAs (Decidable (∀ r ∈ capitalRuns, _))

theorem IsLowered.ne_capitalSigma (h : IsLowered c) : c ≠ capitalSigma := by
  rintro rfl
  revert h
  decide +kernel

theorem IsLowered.toLower_eq (h : IsLowered c) : c.toLower = c := by
  have hrun : (⟨0x41, 0x5A, 1, 32⟩ : CaseRun).holds c.toNat = false :=
    h _ (List.mem_cons_of_mem _ List.mem_cons_self)
  unfold Char.toLower
  apply dif_neg
  intro hupper
  have hlow : 0x41 ≤ c.toNat := UInt32.le_iff_toNat_le.1 hupper.1
  have hhigh : c.toNat ≤ 0x5A := UInt32.le_iff_toNat_le.1 hupper.2
  rw [CaseRun.holds_iff.2 ⟨hlow, hhigh, Nat.one_dvd _⟩] at hrun
  exact nomatch hrun

theorem IsLowered.lowerSimple_eq (h : IsLowered c) : lowerSimple c = c := by
  have hruns : lowerRuns.find? (·.holds c.toNat) = none := by
    apply List.find?_eq_none.2
    intro r hr
    exact Bool.eq_false_iff.1 (h r (List.mem_cons_of_mem _ hr))
  rw [lowerSimple, hruns]

/-- **Lower case leaves such a character alone.** -/
theorem IsLowered.lowerChar_eq (h : IsLowered c) : lowerChar c = [c] := by
  unfold lowerChar
  split_ifs with hascii hdotted
  · rw [h.toLower_eq]
  · subst hdotted
    revert h
    decide +kernel
  · rw [h.lowerSimple_eq]

/-- A text of such characters is its own lower case, whatever stands before it. -/
theorem lowerAfter_of_isLowered (h : ∀ c ∈ s, IsLowered c) (before : List Char) :
    lowerAfter before s = s := by
  induction s generalizing before with
  | nil => rfl
  | cons c s ih =>
    have hc := h c List.mem_cons_self
    have hs := ih fun x hx => h x (List.mem_cons_of_mem c hx)
    rw [lowerAfter, if_neg hc.ne_capitalSigma, hc.lowerChar_eq, hs, List.singleton_append]

/-- Of the ASCII characters only the capitals are in the runs. -/
theorem isLowered_of_ascii (hascii : c.toNat < 0x80) (hcapital : c.toNat < 0x41 ∨ 0x5A < c.toNat) :
    IsLowered c := by
  have hruns : ∀ r ∈ capitalRuns, 0x80 ≤ r.first ∨ 0x41 ≤ r.first ∧ r.last ≤ 0x5A := by
    decide +kernel
  intro r hr
  apply Bool.eq_false_iff.2
  intro hholds
  obtain ⟨hfirst, hlast, -⟩ := CaseRun.holds_iff.1 hholds
  have hrun := hruns r hr
  omega

theorem isLowered_toLower (h : c.toNat < 0x80) : IsLowered c.toLower := by
  have hall : ∀ n < 0x80, (Char.ofNat n).toLower.toNat < 0x80 ∧
      ((Char.ofNat n).toLower.toNat < 0x41 ∨ 0x5A < (Char.ofNat n).toLower.toNat) := by
    decide +kernel
  have hc := hall c.toNat h
  rw [Char.ofNat_toNat] at hc
  exact isLowered_of_ascii hc.1 hc.2

theorem isLowered_lowerSimple (hdotted : c ≠ 'İ') : IsLowered (lowerSimple c) := by
  intro q hq
  cases hrun : lowerRuns.find? (·.holds c.toNat) with
  | none =>
    rw [lowerSimple, hrun]
    rcases List.mem_cons.1 hq with rfl | hq
    · apply Bool.eq_false_iff.2
      intro hholds
      obtain ⟨hlow, hhigh, -⟩ := CaseRun.holds_iff.1 hholds
      exact hdotted (Char.toNat_inj.1 (Nat.le_antisymm hhigh hlow))
    · exact Bool.eq_false_iff.2 (List.find?_eq_none.1 hrun q hq)
  | some r =>
    have hr : r ∈ lowerRuns := List.mem_of_find?_eq_some hrun
    have hholds : r.holds c.toNat = true :=
      List.find?_some (p := fun r : CaseRun => r.holds c.toNat) hrun
    have hmisses := List.all_eq_true.1 (List.all_eq_true.1 capitalRuns_missed r hr) q hq
    have htarget := CaseRun.not_holds_target hmisses hholds
    have hlower : lowerSimple c = Char.ofNat (r.target c.toNat) := by
      rw [lowerSimple, hrun]
      rfl
    rw [hlower]
    -- what is no code point would become the character zero, which is no capital either
    rcases toNat_ofNat_cases (r.target c.toNat) with hcode | hzero
    · rw [hcode]
      exact htarget
    · exact isLowered_of_ascii (by omega) (by omega) q hq

/-- **Lower case leaves alone what any character becomes.** -/
theorem isLowered_of_mem_lowerAt (h : x ∈ lowerAt before c after) : IsLowered x := by
  rcases mem_lowerAt h with ⟨-, rfl | rfl⟩ | ⟨hascii, rfl⟩ | ⟨-, rfl | rfl⟩ | ⟨hdotted, rfl⟩
  · decide +kernel
  · decide +kernel
  · exact isLowered_toLower hascii
  · decide +kernel
  · decide +kernel
  · exact isLowered_lowerSimple hdotted

theorem isLowered_of_mem_lowerAfter (h : x ∈ lowerAfter before s) : IsLowered x := by
  induction s generalizing before with
  | nil => exact nomatch h
  | cons c s ih =>
    rw [lowerAfter_cons] at h
    rcases List.mem_append.1 h with h | h
    · exact isLowered_of_mem_lowerAt h
    · exact ih h

/-- **The lower case of a text is its own.** -/
theorem lower_lower (s : List Char) : lower (lower s) = lower s :=
  lowerAfter_of_isLowered (fun _ hc => isLowered_of_mem_lowerAfter hc) []

theorem lowered_lowered (s : String) : lowered (lowered s) = lowered s := by
  apply String.toList_injective
  rw [toList_lowered, toList_lowered, lower_lower]

theorem trimmed_trimmed (s : String) : trimmed (trimmed s) = trimmed s := by
  apply String.toList_injective
  rw [toList_trimmed, toList_trimmed, trim_trim]

end ReleaseCatalog.Text

namespace ReleaseCatalog

open Text

theorem lowered_plainName (s : String) : lowered (plainName s) = plainName s :=
  lowered_lowered (trimmed s)

/-- **A plain name is its own.** -/
theorem plainName_plainName (s : String) : plainName (plainName s) = plainName s := by
  have hplain : plainName (plainName s) = lowered (trimmed (plainName s)) := rfl
  rw [hplain, trimmed_plainName, lowered_plainName]

end ReleaseCatalog
