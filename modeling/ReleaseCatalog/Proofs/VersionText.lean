import ReleaseCatalog.Proofs.Text.Digits
import ReleaseCatalog.Proofs.Text.Split
import ReleaseCatalog.Version

/-!
# Versions as texts

A version whose numbers are written out with dots between is read back as it was
(`Version.ofText_text`), since digits are neither dots nor blanks and every
number of a version fits its 64 bits. Its short version is the text of the
numbers before the last (`Version.shortText_text`).
-/

namespace ReleaseCatalog

open Text

namespace Text

variable {s : List Char}

theorem dropWhile_of_not_blank (h : ∀ c ∈ s, isBlank c = false) : s.dropWhile isBlank = s := by
  cases s with
  | nil => rfl
  | cons c rest => exact List.dropWhile_cons_of_neg (Bool.eq_false_iff.1 (h c List.mem_cons_self))

theorem trim_of_not_blank (h : ∀ c ∈ s, isBlank c = false) : trim s = s := by
  have hstart : trimStart s = s := dropWhile_of_not_blank h
  have hend : s.reverse.dropWhile isBlank = s.reverse :=
    dropWhile_of_not_blank fun c hc => h c (List.mem_reverse.1 hc)
  rw [trim, hstart, trimEnd, hend, List.reverse_reverse]

theorem isBlank_of_isDigit {c : Char} (h : isDigit c = true) : isBlank c = false :=
  isBlank_of_isDecimal (isDecimal_of_isDigit h)

theorem ne_of_isDigit {c x : Char} (h : isDigit c = true) (hx : isDigit x = false) : c ≠ x := by
  rintro rfl
  rw [h] at hx
  exact nomatch hx

end Text

namespace Version

/-- What starts with no plus sign is read as it stands. -/
theorem word?_of_not_plus {s : List Char} (h : s.head? ≠ some '+') :
    word? s = if s ≠ [] ∧ s.all isDigit ∧ natOfDigits s < UInt64.size then
      some (UInt64.ofNat (natOfDigits s)) else none := by
  have hself : ∀ rest, s ≠ '+' :: rest := by
    rintro rest rfl
    exact h rfl
  unfold word?
  simp only

/-- A number of a version fits the 64 bits that it is read into. -/
theorem word?_digits (n : UInt64) : word? (digits n.toNat) = some n := by
  have hdigits := digits_isDigit n.toNat
  have hplus : (digits n.toNat).head? ≠ some '+' := by
    intro hhead
    have hmem : '+' ∈ digits n.toNat := List.mem_of_mem_head? hhead
    exact ne_of_isDigit (hdigits '+' hmem) (by decide) rfl
  have hnat := natOfDigits_digits n.toNat
  have hsize : natOfDigits (digits n.toNat) < UInt64.size := by
    rw [hnat]
    exact n.toNat_lt_size
  rw [word?_of_not_plus hplus,
    if_pos ⟨digits_ne_nil n.toNat, List.all_eq_true.2 hdigits, hsize⟩, hnat, UInt64.ofNat_toNat]

theorem segment_digits (n : UInt64) : segment (digits n.toNat) = n := by
  have htrim : trim (digits n.toNat) = digits n.toNat :=
    trim_of_not_blank fun c hc => isBlank_of_isDigit (digits_isDigit n.toNat c hc)
  rw [segment, htrim, word?_digits, Option.getD_some]

/-- A text of numbers is cut into the digits of the numbers. -/
theorem pieces_text {v : Version} (h : v.segments ≠ []) :
    pieces '.' v.text.toList = v.segments.map fun n => digits n.toNat := by
  have hdot : ∀ part ∈ v.segments.map fun n => digits n.toNat, '.' ∉ part := by
    intro part hpart hmem
    obtain ⟨n, -, rfl⟩ := List.mem_map.1 hpart
    exact ne_of_isDigit (digits_isDigit n.toNat '.' hmem) (by decide) rfl
  rw [text, String.toList_ofList]
  exact pieces_joined (by simpa using h) hdot

/-- **A version is read back from its text.** A text always has a part, so a
version has to have a number. -/
theorem ofText_text {v : Version} (h : v.segments ≠ []) : ofText v.text = v := by
  have hsegments : (v.segments.map fun n => digits n.toNat).map segment = v.segments := by
    rw [List.map_map]
    exact List.map_id'' segment_digits v.segments
  unfold ofText
  rw [pieces_text h, hsegments]

/-- The short version of a text of numbers is the text of all numbers but the last. -/
theorem shortText_text {v : Version} (h : 2 ≤ v.segments.length) :
    shortText v.text = (Version.mk v.segments.dropLast).text := by
  have hne : v.segments ≠ [] := by
    intro hnil
    rw [hnil] at h
    exact absurd h (by decide)
  unfold shortText
  rw [pieces_text hne]
  dsimp only
  rw [List.length_map, if_neg (by omega), ← List.map_dropLast]
  rfl

end Version

end ReleaseCatalog
