import ReleaseCatalog.Proofs.VersionOrder
import ReleaseCatalog.Proofs.VersionSearch

/-!
# The numbers that are read from a recognized version

A file name is searched for digits of any script, in runs of any length. Versions
are read with ASCII digits alone, and a part that 64 bits do not hold counts as
zero. So what was recognized and what is read from it may be two numbers.

* `Version.toNat_segment`: what a run of digits is read as, `reading`.
* `Version.precedes_iff_lt`: versions of one length are in the order of their numbers.
* `FileName.version?_readings`: which number is read from each part of a
  recognized version, and in which order such versions are.
* `FileName.version?_misread`: names from which another number is read than was
  recognized.
-/

namespace ReleaseCatalog

open Text

namespace Text

variable {s : List Char} {c : Char}

/-- The number that a run of decimal digits writes in base ten, whatever script
they are of. -/
def numberOf (s : List Char) : Nat := s.foldl (fun n c => 10 * n + (decimalValue? c).getD 0) 0

theorem decimalValue?_of_isDigit (h : isDigit c = true) :
    decimalValue? c = some (digitValue c) := by
  have hcode := toNat_of_isDigit h
  have hrow : (decide (0x30 ≤ c.toNat) && decide (c.toNat < 0x30 + 10)) = true := by
    rw [Bool.and_eq_true, decide_eq_true_eq, decide_eq_true_eq]
    omega
  have hfirst : decimalZeros = 0x30 :: decimalZeros.tail := rfl
  unfold decimalValue?
  rw [hfirst, List.find?_cons, hrow]
  rfl

/-- ASCII digits write the same number, whether or not one knows others. -/
theorem numberOf_of_isDigit (h : ∀ c ∈ s, isDigit c = true) : numberOf s = natOfDigits s := by
  unfold numberOf natOfDigits
  refine List.foldl_ext _ _ 0 fun n c hc => ?_
  rw [decimalValue?_of_isDigit (h c hc), Option.getD_some]

end Text

namespace Version

variable {s : List Char} {v w : Version} {as bs : List UInt64}

/-- The digits are those of ASCII, and 64 bits hold the number that they write. -/
def IsWord (s : List Char) : Prop := (∀ c ∈ s, isDigit c = true) ∧ numberOf s < UInt64.size

instance (s : List Char) : Decidable (IsWord s) :=
  have : Decidable (∀ c ∈ s, isDigit c = true) := List.decidableBAll _ s
  inferInstanceAs (Decidable (_ ∧ _))

/-- What a run of digits counts as in a version. -/
def reading (s : List Char) : Nat := if IsWord s then numberOf s else 0

/-- **A run of digits is read as the number that it writes, or counts as zero.** -/
theorem toNat_segment (h : FileName.IsNumber s) : (segment s).toNat = reading s := by
  obtain ⟨hne, hdecimal⟩ := h
  have htrim : trim s = s := trim_of_not_blank fun c hc => isBlank_of_isDecimal (hdecimal c hc)
  have hplus : s.head? ≠ some '+' := by
    intro hhead
    have hsign := hdecimal '+' (List.mem_of_mem_head? hhead)
    revert hsign
    decide
  unfold segment reading
  rw [htrim, word?_of_not_plus hplus]
  by_cases hdigits : ∀ c ∈ s, isDigit c = true
  · have hnat := numberOf_of_isDigit hdigits
    by_cases hsize : natOfDigits s < UInt64.size
    · have hword : IsWord s := ⟨hdigits, hnat ▸ hsize⟩
      rw [if_pos ⟨hne, List.all_eq_true.2 hdigits, hsize⟩, if_pos hword, Option.getD_some, hnat]
      exact UInt64.toNat_ofNat_of_lt' hsize
    · have hword : ¬ IsWord s := fun hw => hsize (hnat ▸ hw.2)
      rw [if_neg fun hall => hsize hall.2.2, if_neg hword]
      rfl
  · have hword : ¬ IsWord s := fun hw => hdigits hw.1
    rw [if_neg fun hall => hdigits (List.all_eq_true.1 hall.2.1), if_neg hword]
    rfl

theorem reading_eq_iff : reading s = numberOf s ↔ IsWord s ∨ numberOf s = 0 := by
  unfold reading
  by_cases h : IsWord s
  · simp only [h, if_true, true_or]
  · simp only [h, if_false, false_or, eq_comm]

/-- **Versions of one length are in the order of their numbers**, from the first
one on. -/
theorem precedes_iff_lt (h : v.segments.length = w.segments.length) :
    v.precedes w = true ↔ v.segments.map UInt64.toNat < w.segments.map UInt64.toNat := by
  obtain ⟨as⟩ := v
  obtain ⟨bs⟩ := w
  show segmentsPrecede as bs = true ↔ _
  dsimp only at h ⊢
  induction as generalizing bs with
  | nil =>
    obtain rfl := List.length_eq_zero_iff.1 h.symm
    simp
  | cons a as ih =>
    cases bs with
    | nil => exact nomatch h
    | cons b bs =>
      rw [segmentsPrecede_cons, ih bs (Nat.succ.inj h), List.map_cons, List.map_cons,
        List.cons_lt_cons_iff, UInt64.lt_iff_toNat_lt, UInt64.toNat_inj]

end Version

namespace FileName

variable {name v : String}

/-- The numbers that the parts of a text between its dots write. -/
def numbers (v : String) : List Nat := (pieces '.' v.toList).map numberOf

/-- What the parts of a text between its dots count as in a version. -/
def readings (v : String) : List Nat := (pieces '.' v.toList).map Version.reading

theorem isNumber_of_mem_pieces (h : IsRelease v.toList) {part : List Char}
    (hpart : part ∈ pieces '.' v.toList) :
    IsNumber part := by
  obtain ⟨major, minor, patch, hmajor, hminor, hpatch, hv⟩ := h
  have hdot : ∀ p ∈ [major, minor, patch], IsNumber p := by
    simp only [List.mem_cons, List.not_mem_nil, or_false]
    rintro p (rfl | rfl | rfl) <;> assumption
  have hpieces : pieces '.' v.toList = [major, minor, patch] := by
    rw [hv]
    exact pieces_joined (List.cons_ne_nil _ _) fun p hp => dot_not_mem_of_isNumber (hdot p hp)
  rw [hpieces] at hpart
  exact hdot part hpart

theorem length_pieces_of_isRelease (h : IsRelease v.toList) : (pieces '.' v.toList).length = 3 := by
  rw [length_pieces, (count_dot_of_isRelease h).1]

theorem segments_ofText (h : IsRelease v.toList) :
    (Version.ofText v).segments.map UInt64.toNat = readings v := by
  unfold Version.ofText readings
  rw [List.map_map]
  exact List.map_congr_left fun part hpart => Version.toNat_segment (isNumber_of_mem_pieces h hpart)

theorem readings_eq_numbers_iff :
    readings v = numbers v ↔
      ∀ part ∈ pieces '.' v.toList, Version.IsWord part ∨ numberOf part = 0 := by
  unfold readings numbers
  simp only [List.map_inj_left, Version.reading_eq_iff]

/-- **What is read from a recognized version.** Each of its three parts is a run
of digits. It is read as the number that it writes exactly if its digits are
those of ASCII and 64 bits hold the number, or the number is zero; otherwise the
part counts as zero. Recognized versions are in the order of what is read from
them, and so in the order of their numbers where those are what is read. -/
theorem version?_readings (name v : String) (h : version? name = some v) :
    (pieces '.' v.toList).length = 3 ∧ (∀ part ∈ pieces '.' v.toList, IsNumber part) ∧
    (Version.ofText v).segments.map UInt64.toNat = readings v ∧
    (readings v = numbers v ↔
      ∀ part ∈ pieces '.' v.toList, Version.IsWord part ∨ numberOf part = 0) ∧
    ∀ other w, version? other = some w →
      ((Version.ofText v).precedes (Version.ofText w) = true ↔ readings v < readings w) ∧
      ((∀ part ∈ pieces '.' v.toList ++ pieces '.' w.toList, Version.IsWord part ∨
        numberOf part = 0) →
        ((Version.ofText v).precedes (Version.ofText w) = true ↔ numbers v < numbers w)) := by
  have hv := isRelease_of_version? h
  refine ⟨length_pieces_of_isRelease hv, fun part hpart => isNumber_of_mem_pieces hv hpart,
    segments_ofText hv, readings_eq_numbers_iff, fun other w hother => ?_⟩
  have hw := isRelease_of_version? hother
  have hlength : (Version.ofText v).segments.length = (Version.ofText w).segments.length := by
    unfold Version.ofText
    rw [List.length_map, List.length_map, length_pieces_of_isRelease hv,
      length_pieces_of_isRelease hw]
  have horder : (Version.ofText v).precedes (Version.ofText w) = true ↔
      readings v < readings w := by
    rw [Version.precedes_iff_lt hlength, segments_ofText hv, segments_ofText hw]
  refine ⟨horder, fun hread => ?_⟩
  have hreadv :=
    readings_eq_numbers_iff.2 fun part hpart => hread part (List.mem_append_left _ hpart)
  have hreadw :=
    readings_eq_numbers_iff.2 fun part hpart => hread part (List.mem_append_right _ hpart)
  rw [horder, hreadv, hreadw]

/-- The greatest number of 64 bits comes last of its series, and leading zeros
do not count. -/
theorem version?_readings_greatest :
    version? "mysql-8.0.18446744073709551615-linux-x86_64.tar.gz" =
      some "8.0.18446744073709551615" ∧
      (Version.ofText "8.0.0037").precedes (Version.ofText "8.0.18446744073709551615") = true := by
  have hgreatest : version? "mysql-8.0.18446744073709551615-linux-x86_64.tar.gz" =
      some "8.0.18446744073709551615" := by
    decide +kernel
  have hzeros : version? "mysql-8.0.0037-linux-x86_64.tar.gz" = some "8.0.0037" := by decide +kernel
  obtain ⟨-, -, -, -, horder⟩ := version?_readings _ _ hzeros
  exact ⟨hgreatest, ((horder _ _ hgreatest).2 (by decide +kernel)).2 (by decide +kernel)⟩

/-- **Names from which another number is read than was recognized.** Patch number
37 in Arabic-Indic digits counts as zero, and so does the first patch number that
needs more than 64 bits. Both releases come before patch release 1. -/
theorem version?_misread :
    version? "mysql-8.0.٣٧-linux-glibc2.17-x86_64.tar.gz" = some "8.0.٣٧" ∧
    numbers "8.0.٣٧" = [8, 0, 37] ∧
      (Version.ofText "8.0.٣٧").segments = [8, 0, 0] ∧
      version? "mysql-8.0.18446744073709551616-linux-x86_64.tar.gz" =
        some "8.0.18446744073709551616" ∧
      numbers "8.0.18446744073709551616" = [8, 0, 18446744073709551616] ∧
      (Version.ofText "8.0.18446744073709551616").segments = [8, 0, 0] ∧
      version? "mysql-8.0.1-linux-x86_64.tar.gz" = some "8.0.1" ∧ numbers "8.0.1" = [8, 0, 1] ∧
      (Version.ofText "8.0.٣٧").precedes (Version.ofText "8.0.1") = true ∧
      (Version.ofText "8.0.18446744073709551616").precedes (Version.ofText "8.0.1") = true := by
  decide +kernel

end FileName

end ReleaseCatalog
