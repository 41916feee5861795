import Mathlib.Data.List.DropRight
import ReleaseCatalog.Platform

/-!
# Lower case and blanks

A character is a blank exactly if its lower case is. So a text in lower case has
blanks around it exactly if the text has (`trimmed_lowered_iff`), and a plain
name has none (`trimmed_plainName`).
-/

namespace ReleaseCatalog.Text

variable {c x : Char} {s before after : List Char}

theorem isBlank_iff : isBlank c = true ↔ ∃ b ∈ blankRanges, b.1 ≤ c.toNat ∧ c.toNat ≤ b.2 :=
  inRanges_iff

/-- No run of the lower case mapping meets the blanks, neither before nor after
the mapping. -/
theorem lowerRuns_apart : ∀ r ∈ lowerRuns, ∀ b ∈ blankRanges,
    (r.last < b.1 ∨ b.2 < r.first) ∧
    ((r.last : Int) + r.shift < b.1 ∨ (b.2 : Int) < r.first + r.shift) := by
  decide +kernel

theorem toNat_ofNat_cases (n : Nat) : (Char.ofNat n).toNat = n ∨ (Char.ofNat n).toNat = 0 := by
  by_cases hn : n.isValidChar
  · rw [Char.ofNat, dif_pos hn]
    exact .inl rfl
  · rw [Char.ofNat, dif_neg hn]
    exact .inr rfl

theorem isBlank_lowerSimple (c : Char) : isBlank (lowerSimple c) = isBlank c := by
  unfold lowerSimple
  cases hr : lowerRuns.find? (·.holds c.toNat) with
  | none => rfl
  | some r =>
    have hmem : r ∈ lowerRuns := List.mem_of_find?_eq_some hr
    have hholds : r.holds c.toNat = true :=
      List.find?_some (p := fun r : CaseRun => r.holds c.toNat) hr
    simp only [CaseRun.holds, Bool.and_eq_true, decide_eq_true_eq] at hholds
    have hpositive : ∀ b ∈ blankRanges, 0 < b.1 := by decide
    -- neither the character of the run nor what it comes to is a blank
    have hbefore : isBlank c = false := by
      refine Bool.eq_false_iff.2 fun hblank => ?_
      obtain ⟨b, hb, hin⟩ := isBlank_iff.1 hblank
      have hapart := (lowerRuns_apart r hmem b hb).1
      omega
    have hafter : isBlank (Char.ofNat (c.toNat + r.shift).toNat) = false := by
      refine Bool.eq_false_iff.2 fun hblank => ?_
      obtain ⟨b, hb, hin⟩ := isBlank_iff.1 hblank
      have hapart := (lowerRuns_apart r hmem b hb).2
      have hzero := hpositive b hb
      have hcode := toNat_ofNat_cases (c.toNat + r.shift).toNat
      omega
    rw [hbefore, hafter]

theorem isBlank_toLower (h : c.toNat < 0x80) : isBlank c.toLower = isBlank c := by
  have hall : ∀ n < 0x80, isBlank (Char.ofNat n).toLower = isBlank (Char.ofNat n) := by
    decide +kernel
  have hc := hall c.toNat h
  rwa [Char.ofNat_toNat] at hc

/-- What a character becomes, between the text before it, last character first,
and the text after it. -/
def lowerAt (before : List Char) (c : Char) (after : List Char) : List Char :=
  if c = capitalSigma then [lowerSigma before after] else lowerChar c

theorem lowerAfter_cons :
    lowerAfter before (c :: s) = lowerAt before c s ++ lowerAfter (c :: before) s := rfl

theorem lowerAt_ne_nil (before : List Char) (c : Char) (after : List Char) :
    lowerAt before c after ≠ [] := by
  unfold lowerAt lowerChar
  split_ifs <;> exact List.cons_ne_nil _ _

/-- What a character becomes, case by case: a sigma, an ASCII character, the
dotted capital I, and all others. -/
theorem mem_lowerAt (h : x ∈ lowerAt before c after) :
    (c = capitalSigma ∧ (x = 'ς' ∨ x = 'σ')) ∨ (c.toNat < 0x80 ∧ x = c.toLower) ∨
      (c = 'İ' ∧ (x = 'i' ∨ x = Char.ofNat 0x307)) ∨ (c ≠ 'İ' ∧ x = lowerSimple c) := by
  unfold lowerAt lowerChar at h
  split_ifs at h with hsigma hascii hdotted
  · refine .inl ⟨hsigma, ?_⟩
    rw [List.mem_singleton.1 h, lowerSigma]
    split
    · exact .inl rfl
    · exact .inr rfl
  · exact .inr (.inl ⟨hascii, List.mem_singleton.1 h⟩)
  · simp only [List.mem_cons, List.not_mem_nil, or_false] at h
    exact .inr (.inr (.inl ⟨hdotted, h⟩))
  · exact .inr (.inr (.inr ⟨hdotted, List.mem_singleton.1 h⟩))

/-- **What a character becomes are blanks if it is one, and no blanks otherwise.** -/
theorem isBlank_of_mem_lowerAt (h : x ∈ lowerAt before c after) : isBlank x = isBlank c := by
  rcases mem_lowerAt h with ⟨rfl, rfl | rfl⟩ | ⟨hascii, rfl⟩ | ⟨rfl, rfl | rfl⟩ | ⟨-, rfl⟩
  · decide
  · decide
  · exact isBlank_toLower hascii
  · decide
  · decide
  · exact isBlank_lowerSimple c

theorem head?_lower (s : List Char) : (lower s).head?.map isBlank = s.head?.map isBlank := by
  cases s with
  | nil => rfl
  | cons c s =>
    obtain ⟨x, more, hx⟩ := List.exists_cons_of_ne_nil (lowerAt_ne_nil [] c s)
    have hmem : x ∈ lowerAt [] c s := hx ▸ List.mem_cons_self
    rw [lower, lowerAfter_cons, hx]
    exact congrArg some (isBlank_of_mem_lowerAt hmem)

theorem getLast?_lowerAfter (s before : List Char) :
    (lowerAfter before s).getLast?.map isBlank = s.getLast?.map isBlank := by
  induction s generalizing before with
  | nil => rfl
  | cons c s ih =>
    have hrest := ih (c :: before)
    rw [lowerAfter_cons, List.getLast?_append]
    cases s with
    | nil =>
      have hlast := List.getLast?_eq_some_getLast (lowerAt_ne_nil before c [])
      have hmem : (lowerAt before c []).getLast (lowerAt_ne_nil before c []) ∈
          lowerAt before c [] := List.getLast_mem _
      show (lowerAt before c []).getLast?.map isBlank = some (isBlank c)
      rw [hlast]
      exact congrArg some (isBlank_of_mem_lowerAt hmem)
    | cons d s =>
      -- the end of the rest is the end of the whole
      rw [List.getLast?_cons_cons, ← hrest]
      cases hrest' : (lowerAfter (c :: before) (d :: s)).getLast? with
      | none =>
        rw [hrest', List.getLast?_cons] at hrest
        exact nomatch hrest
      | some x => rfl

theorem trimStart_isSuffix (s : List Char) : trimStart s <:+ s := List.dropWhile_suffix isBlank

theorem trimEnd_isPrefix (s : List Char) : trimEnd s <+: s := List.rdropWhile_prefix isBlank s

theorem trimStart_eq_self_iff : trimStart s = s ↔ s.head?.map isBlank ≠ some true := by
  cases s with
  | nil => exact iff_of_true rfl (by simp)
  | cons c s =>
    rw [trimStart, List.dropWhile_eq_self_iff]
    simp

theorem trimEnd_eq_self_iff : trimEnd s = s ↔ s.getLast?.map isBlank ≠ some true := by
  have hright : trimEnd s = s.rdropWhile isBlank := rfl
  rw [hright, List.rdropWhile_eq_self_iff]
  cases s using List.reverseRecOn with
  | nil => exact iff_of_true (fun h => absurd rfl h) (by simp)
  | append_singleton s c => simp

/-- **Nothing is trimmed from a text exactly if neither its first character nor
its last one is a blank.** -/
theorem trim_eq_self_iff :
    trim s = s ↔ s.head?.map isBlank ≠ some true ∧ s.getLast?.map isBlank ≠ some true := by
  rw [← trimStart_eq_self_iff, ← trimEnd_eq_self_iff]
  constructor
  · intro h
    have hfront := (trimStart_isSuffix s).length_le
    have hback := (trimEnd_isPrefix (trimStart s)).length_le
    have hlength : (trimEnd (trimStart s)).length = s.length := congrArg List.length h
    have hself : trimStart s = s := (trimStart_isSuffix s).eq_of_length (by omega)
    rw [trim, hself] at h
    exact ⟨hself, h⟩
  · rintro ⟨hfront, hback⟩
    rw [trim, hfront, hback]

theorem trim_trim (s : List Char) : trim (trim s) = trim s := by
  have hend : trimEnd (trim s) = trim s := List.rdropWhile_idempotent isBlank (trimStart s)
  have hstart : trimStart (trim s) = trim s := by
    have hself : trimStart (trimStart s) = trimStart s := List.dropWhile_idempotent isBlank s
    rw [trimStart_eq_self_iff] at hself ⊢
    -- what is left starts as the text without the blanks in front, if anything is left
    obtain ⟨more, hmore⟩ : trim s <+: trimStart s := trimEnd_isPrefix (trimStart s)
    cases hs : trim s with
    | nil => simp
    | cons c rest =>
      rw [← hmore, hs] at hself
      exact hself
  rw [trim, hstart, hend]

/-- **A text has blanks around it exactly if it has them in lower case.** -/
theorem trimmed_lowered_iff {s : String} : trimmed (lowered s) = lowered s ↔ trimmed s = s := by
  have htexts : ∀ s : String, trimmed s = s ↔ trim s.toList = s.toList := by
    intro s
    rw [← toList_trimmed]
    exact ⟨congrArg String.toList, fun h => String.toList_injective h⟩
  rw [htexts, htexts, toList_lowered, trim_eq_self_iff, trim_eq_self_iff, head?_lower, lower,
    getLast?_lowerAfter]

end ReleaseCatalog.Text

namespace ReleaseCatalog

open Text

/-- No blanks surround a plain name. -/
theorem trimmed_plainName (s : String) : trimmed (plainName s) = plainName s := by
  refine trimmed_lowered_iff.2 (String.toList_injective ?_)
  rw [toList_trimmed, toList_trimmed]
  exact trim_trim s.toList

end ReleaseCatalog
