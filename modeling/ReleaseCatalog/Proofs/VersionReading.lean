import Mathlib.Data.List.Forall2
import ReleaseCatalog.Proofs.VersionText

/-!
# What is read from a version's text

Any text is read as a version, one number for each part between its dots. A part
that writes a number of 64 bits is read as that number: digits, leading zeros
among them, perhaps with a plus sign in front, and blanks around. Any other part
counts as zero, so that no part is lost and none is added.

* `Version.readAs_segment`: what a part is read as.
* `Version.ofText_shortText`: the short version of a text has all numbers but
  the last.
* `Version.ofText_normalizes`: writing out what was read changes no number, and
  cutting the text at its last dot takes the last number away.
-/

namespace ReleaseCatalog.Version

open Text

variable {part sign ds : List Char} {m : Nat} {n : UInt64} {s : String}

/-- Digits with an optional plus sign in front and blanks around, which write
the number. -/
def Writes (part : List Char) (m : Nat) : Prop :=
  ∃ sign ds, (sign = [] ∨ sign = ['+']) ∧ ds ≠ [] ∧ (∀ c ∈ ds, isDigit c = true) ∧
    trim part = sign ++ ds ∧ natOfDigits ds = m

/-- What a part of a version's text is read as: the number that it writes if 64
bits hold it, and zero otherwise. -/
def ReadAs (part : List Char) (n : UInt64) : Prop :=
  Writes part n.toNat ∨ n = 0 ∧ ∀ m, Writes part m → UInt64.size ≤ m

/-- **A plus sign in front of digits does not matter.** -/
theorem word?_sign (hsign : sign = [] ∨ sign = ['+']) (hds : ∀ c ∈ ds, isDigit c = true) :
    word? (sign ++ ds) =
      if ds ≠ [] ∧ ds.all isDigit ∧ natOfDigits ds < UInt64.size then
        some (UInt64.ofNat (natOfDigits ds))
      else none := by
  rcases hsign with rfl | rfl
  · apply word?_of_not_plus
    intro hhead
    have hdigit := hds '+' (List.mem_of_mem_head? hhead)
    exact ne_of_isDigit hdigit (by decide) rfl
  · rfl

theorem word?_of_writes (h : Writes part m) :
    word? (trim part) = if m < UInt64.size then some (UInt64.ofNat m) else none := by
  obtain ⟨sign, ds, hsign, hne, hds, hpart, rfl⟩ := h
  rw [hpart, word?_sign hsign hds]
  simp only [hne, ne_eq, not_false_eq_true, List.all_eq_true.2 hds, true_and]

/-- What is read for digits begins behind the plus sign, if there is one. -/
theorem exists_word?_eq (s : List Char) :
    ∃ sign ds, (sign = [] ∨ sign = ['+']) ∧ s = sign ++ ds ∧
      word? s =
        if ds ≠ [] ∧ ds.all isDigit ∧ natOfDigits ds < UInt64.size then
          some (UInt64.ofNat (natOfDigits ds))
        else none := by
  by_cases hplus : s.head? = some '+'
  · obtain ⟨rest, rfl⟩ := List.head?_eq_some_iff.1 hplus
    exact ⟨['+'], rest, .inr rfl, rfl, rfl⟩
  · exact ⟨[], s, .inl rfl, rfl, word?_of_not_plus hplus⟩

/-- What is read as a number is a text that writes it. -/
theorem writes_of_word? (h : word? (trim part) = some n) : Writes part n.toNat := by
  obtain ⟨sign, ds, hsign, hpart, hword⟩ := exists_word?_eq (trim part)
  rw [hword, Option.ite_none_right_eq_some] at h
  obtain ⟨⟨hne, hds, hsize⟩, hn⟩ := h
  have hvalue : n.toNat = natOfDigits ds := by
    rw [← Option.some.inj hn]
    exact UInt64.toNat_ofNat_of_lt' hsize
  exact ⟨sign, ds, hsign, hne, List.all_eq_true.1 hds, hpart, hvalue.symm⟩

/-- **Every part is read**, as the number that it writes or as zero. -/
theorem readAs_segment (part : List Char) : ReadAs part (segment part) := by
  unfold segment
  cases hword : word? (trim part) with
  | some n => exact .inl (writes_of_word? hword)
  | none =>
    refine .inr ⟨rfl, ?_⟩
    intro m hm
    rw [word?_of_writes hm] at hword
    by_cases hsize : m < UInt64.size
    · rw [if_pos hsize] at hword
      exact nomatch hword
    · omega

theorem segments_ne_nil (s : String) : (ofText s).segments ≠ [] := by
  have hpieces := pieces_ne_nil '.' s.toList
  simpa [ofText] using hpieces

theorem length_segments (s : String) : (ofText s).segments.length = s.toList.count '.' + 1 := by
  have hpieces := length_pieces '.' s.toList
  rwa [← List.length_map (f := segment)] at hpieces

theorem readAs_segments (s : String) :
    List.Forall₂ ReadAs (pieces '.' s.toList) (ofText s).segments := by
  unfold ofText
  rw [List.forall₂_map_right_iff]
  exact List.forall₂_same.2 fun part _ => readAs_segment part

/-- The short version of a text is what stands before its last dot. -/
theorem toList_shortText {front last : List Char} (hs : s.toList = front ++ '.' :: last)
    (hlast : '.' ∉ last) :
    (shortText s).toList = front := by
  have hparts : pieces '.' s.toList = pieces '.' front ++ [last] := by
    rw [hs]
    exact pieces_append hlast
  have hlength : ¬ (pieces '.' s.toList).length ≤ 1 := by
    have hpos := List.length_pos_iff.2 (pieces_ne_nil '.' front)
    rw [hparts, List.length_append, List.length_singleton]
    omega
  unfold shortText
  dsimp only
  rw [if_neg hlength, String.toList_ofList, hparts, List.dropLast_concat, joined_pieces]

/-- A text with a dot has a last one. -/
theorem exists_last_dot {s : List Char} (h : '.' ∈ s) :
    ∃ front last, s = front ++ '.' :: last ∧ '.' ∉ last := by
  -- the last dot is the first one from behind
  obtain ⟨back, front, hreverse, hback⟩ := List.eq_append_cons_of_mem (List.mem_reverse.2 h)
  refine ⟨front.reverse, back.reverse, ?_, fun hlast => hback (List.mem_reverse.1 hlast)⟩
  rw [← List.reverse_reverse s, hreverse, List.reverse_append, List.reverse_cons, List.append_assoc]
  rfl

/-- **The short version of a text has all numbers but the last.** -/
theorem ofText_shortText (h : '.' ∈ s.toList) :
    ofText (shortText s) = ⟨(ofText s).segments.dropLast⟩ := by
  obtain ⟨front, last, hs, hlast⟩ := exists_last_dot h
  unfold ofText
  rw [toList_shortText hs hlast, hs, pieces_append hlast, List.map_append, List.map_singleton,
    List.dropLast_concat]

theorem shortText_of_not_mem (h : '.' ∉ s.toList) : shortText s = s := by
  have hcount := List.count_eq_zero.2 h
  have hlength := length_pieces '.' s.toList
  unfold shortText
  rw [if_pos (by omega)]

/-- **A text is read as a version with one number for each of its parts, and the
reading can be written out.**

What is read from the numbers written out with dots between is the same version.
It has one number more than the text has dots, each of them what its part is
read as: the number that digits with an optional plus sign and blanks around
them write, if 64 bits hold it, and zero otherwise. The short version of a text
with a dot is what stands before the last dot, and all numbers but the last are
read from it; a text without a dot is its own short version. -/
theorem ofText_normalizes (s : String) :
    ofText (ofText s).text = ofText s ∧
    (ofText s).segments.length = s.toList.count '.' + 1 ∧
    List.Forall₂ ReadAs (pieces '.' s.toList) (ofText s).segments ∧
    ('.' ∈ s.toList → (∃ last, '.' ∉ last ∧ s.toList = (shortText s).toList ++ '.' :: last) ∧
      (ofText (shortText s)).segments = (ofText s).segments.dropLast) ∧
    ('.' ∉ s.toList → shortText s = s) := by
  refine ⟨ofText_text (segments_ne_nil s), length_segments s, readAs_segments s, ?_,
    shortText_of_not_mem⟩
  intro hdot
  obtain ⟨front, last, hs, hlast⟩ := exists_last_dot hdot
  refine ⟨⟨last, hlast, ?_⟩, congrArg segments (ofText_shortText hdot)⟩
  rw [toList_shortText hs hlast]
  exact hs

/-- A text with blanks, a plus sign, leading zeros, an empty part, a word and two
numbers at the limit of 64 bits: it has seven parts, and without the last one six. -/
theorem ofText_normalizes_malformed :
    let s := "\u3000+8. 0037\t..x.18446744073709551615.18446744073709551616.5-rc"
    '.' ∈ s.toList ∧ '.' ∉ "8".toList ∧
      (ofText s).segments = [8, 37, 0, 0, 18446744073709551615, 0, 0] ∧
      (ofText (shortText s)).segments = [8, 37, 0, 0, 18446744073709551615, 0] ∧
      ofText "8.37.0.0.18446744073709551615.0.0" = ofText s ∧ shortText "8" = "8" := by
  intro s
  have hdot : '.' ∈ s.toList := by decide +kernel
  have hplain : '.' ∉ "8".toList := by decide +kernel
  have hsegments : (ofText s).segments = [8, 37, 0, 0, 18446744073709551615, 0, 0] := by
    decide +kernel
  have htext : (ofText s).text = "8.37.0.0.18446744073709551615.0.0" := by decide +kernel
  obtain ⟨hread, -, -, hshort, -⟩ := ofText_normalizes s
  obtain ⟨-, -, -, -, hself⟩ := ofText_normalizes "8"
  obtain ⟨-, hlast⟩ := hshort hdot
  rw [htext] at hread
  rw [hsegments] at hlast
  exact ⟨hdot, hplain, hsegments, hlast, hread, hself hplain⟩

end ReleaseCatalog.Version
