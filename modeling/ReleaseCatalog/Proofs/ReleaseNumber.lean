import Mathlib.Data.List.TakeWhile
import ReleaseCatalog.FileName
import ReleaseCatalog.Proofs.Text.Search
import ReleaseCatalog.Proofs.VersionText

/-!
# Release numbers in file names

The shapes of release numbers are small grammars (`FitsShape`), and what is
taken for the version of a file name fits one of them.

* `fitsShape_of_takeShape?`: what a shape takes from the front of a text fits
  the shape.
* `isListed_of_fits`: the shapes are those of the listed release numbers, `IsListed`.
* `release?_eq_some_iff`: the reader takes the longest listed number at the
  front of a text.
* `isRelease_of_version?`: a version that was found is three numbers with dots
  between.
* `shortText_of_isRelease`: its short version is the first two of them.
* `takeShape?_number`: a number takes all the digits there are.
* `release?_of_takeShape?`: where one shape takes something, no other one does.
-/

namespace ReleaseCatalog

open Text

namespace FileName

/-- A run of decimal digits of any script. -/
def IsNumber (s : List Char) : Prop := s ≠ [] ∧ ∀ c ∈ s, isDecimal c = true

/-- The text is one that a part of a shape stands for. -/
def ShapePart.Fits : ShapePart → List Char → Prop
  | exactly p, s => s = p.toList
  | oneOf choices, s => ∃ c ∈ choices, s = [c]
  | number, s => IsNumber s

/-- The text is one that a shape stands for. -/
def FitsShape : List ShapePart → List Char → Prop
  | [], s => s = []
  | part :: parts, s => ∃ a b, s = a ++ b ∧ part.Fits a ∧ FitsShape parts b

variable {part : ShapePart} {parts : List ShapePart} {s t d taken rest : List Char}
  {name v : String}

theorem fits_of_take? (h : part.take? s = some (taken, rest)) :
    s = taken ++ rest ∧ part.Fits taken := by
  cases part with
  | exactly p =>
    simp only [ShapePart.take?, Option.map_eq_some_iff, Prod.mk.injEq] at h
    obtain ⟨after, hafter, rfl, rfl⟩ := h
    exact ⟨after?_eq_some_iff.1 hafter, rfl⟩
  | oneOf choices =>
    cases s with
    | nil => exact nomatch h
    | cons c s =>
      simp only [ShapePart.take?] at h
      split at h
      · rename_i hmem
        obtain ⟨rfl, rfl⟩ := Prod.mk.inj (Option.some.inj h)
        exact ⟨rfl, c, List.contains_iff_mem.1 hmem, rfl⟩
      · exact nomatch h
  | number =>
    simp only [ShapePart.take?] at h
    split at h
    · exact nomatch h
    · rename_i hne
      obtain ⟨rfl, rfl⟩ := Prod.mk.inj (Option.some.inj h)
      exact ⟨List.takeWhile_append_dropWhile.symm, hne, fun c hc => List.mem_takeWhile_imp hc⟩

/-- **What a shape takes from the front of a text fits the shape.** -/
theorem fitsShape_of_takeShape? (h : takeShape? parts s = some t) :
    FitsShape parts t ∧ t <+: s := by
  induction parts generalizing s t with
  | nil =>
    obtain rfl := Option.some.inj h
    exact ⟨rfl, List.nil_prefix⟩
  | cons part parts ih =>
    unfold takeShape? at h
    split at h
    · rename_i taken rest htake
      obtain ⟨hs, hfits⟩ := fits_of_take? htake
      obtain ⟨more, hmore, rfl⟩ := Option.map_eq_some_iff.1 h
      obtain ⟨hparts, hprefix⟩ := ih hmore
      refine ⟨⟨taken, more, rfl, hfits, hparts⟩, ?_⟩
      rw [hs]
      exact (List.prefix_append_right_inj taken).2 hprefix
    · exact nomatch h

theorem fits_of_release? (h : release? s = some t) :
    (∃ parts ∈ releaseShapes, FitsShape parts t) ∧ t <+: s := by
  obtain ⟨parts, hparts, htake⟩ := List.exists_of_findSome?_eq_some h
  obtain ⟨hfits, hprefix⟩ := fitsShape_of_takeShape? htake
  exact ⟨⟨parts, hparts, hfits⟩, hprefix⟩

theorem takeShape?_exactly (p : String) (parts : List ShapePart) (s : List Char) :
    takeShape? (.exactly p :: parts) (p.toList ++ s) =
      (takeShape? parts s).map (p.toList ++ ·) := by
  have htake : (ShapePart.exactly p).take? (p.toList ++ s) = some (p.toList, s) := by
    unfold ShapePart.take?
    simp only [after?_eq_some_iff.2 rfl, Option.map_some]
  rw [takeShape?, htake]

theorem takeShape?_of_after?_eq_none {p : String} (h : after? p.toList s = none) :
    takeShape? (.exactly p :: parts) s = none := by
  rw [takeShape?, ShapePart.take?, h, Option.map_none]

theorem takeShape?_oneOf {choices : List Char} {c : Char} (hc : c ∈ choices)
    (parts : List ShapePart) (s : List Char) :
    takeShape? (.oneOf choices :: parts) (c :: s) = (takeShape? parts s).map ([c] ++ ·) := by
  have htake : (ShapePart.oneOf choices).take? (c :: s) = some ([c], s) := by
    unfold ShapePart.take?
    exact if_pos (List.contains_iff_mem.2 hc)
  rw [takeShape?, htake]

/-- **A number takes all the digits there are.** -/
theorem takeShape?_number (hd : IsNumber d) (hrest : ∀ c ∈ rest.head?, isDecimal c = false)
    (parts : List ShapePart) :
    takeShape? (.number :: parts) (d ++ rest) = (takeShape? parts rest).map (d ++ ·) := by
  obtain ⟨hne, hall⟩ := hd
  have htake : ShapePart.number.take? (d ++ rest) = some (d, rest) := by
    unfold ShapePart.take?
    simp only [takeWhile_run hall hrest, dropWhile_run hall hrest, hne, if_false]
  rw [takeShape?, htake]

/-- The shapes start with different digits, so where one takes something no
other one does. -/
theorem release?_of_takeShape? (hparts : parts ∈ releaseShapes) (h : takeShape? parts s = some t) :
    release? s = some t := by
  obtain ⟨hfits, u, rfl⟩ := fitsShape_of_takeShape? h
  unfold release?
  simp only [releaseShapes, List.mem_cons, List.not_mem_nil, or_false] at hparts ⊢
  rcases hparts with rfl | rfl | rfl | rfl <;> obtain ⟨_, b, rfl, rfl, -⟩ := hfits
  · simp only [List.findSome?_cons, h]
  · have h5 : after? "5.7.".toList ("8.".toList ++ b ++ u) = none := rfl
    simp only [List.findSome?_cons, takeShape?_of_after?_eq_none h5, h]
  · have h5 : after? "5.7.".toList ("9.".toList ++ b ++ u) = none := rfl
    have h8 : after? "8.".toList ("9.".toList ++ b ++ u) = none := rfl
    simp only [List.findSome?_cons, takeShape?_of_after?_eq_none h5,
      takeShape?_of_after?_eq_none h8, h]
  · have h5 : after? "5.7.".toList ("10.".toList ++ b ++ u) = none := rfl
    have h8 : after? "8.".toList ("10.".toList ++ b ++ u) = none := rfl
    have h9 : after? "9.".toList ("10.".toList ++ b ++ u) = none := rfl
    simp only [List.findSome?_cons, takeShape?_of_after?_eq_none h5,
      takeShape?_of_after?_eq_none h8, takeShape?_of_after?_eq_none h9, h]

/-- Three numbers with dots between. -/
def IsRelease (s : List Char) : Prop :=
  ∃ major minor patch, IsNumber major ∧ IsNumber minor ∧ IsNumber patch ∧
    s = joined '.' [major, minor, patch]

theorem joined_three (a b c : List Char) : joined '.' [a, b, c] = a ++ '.' :: (b ++ '.' :: c) := by
  simp [joined]

theorem isNumber_of_all (hne : s ≠ []) (h : s.all isDecimal = true) : IsNumber s :=
  ⟨hne, List.all_eq_true.1 h⟩

/-- The release numbers that names are searched for: those of `5.7`, of `8.0` to
`8.4`, and of all series of `9` and of `10`. -/
inductive IsListed : List Char → Prop where
  | five {patch : List Char} (hpatch : IsNumber patch) : IsListed ("5.7.".toList ++ patch)
  | eight {minor : Char} {patch : List Char} (hminor : minor ∈ ['0', '1', '2', '3', '4'])
      (hpatch : IsNumber patch) :
      IsListed ("8.".toList ++ minor :: '.' :: patch)
  | nine {minor patch : List Char} (hminor : IsNumber minor) (hpatch : IsNumber patch) :
      IsListed ("9.".toList ++ (minor ++ '.' :: patch))
  | ten {minor patch : List Char} (hminor : IsNumber minor) (hpatch : IsNumber patch) :
      IsListed ("10.".toList ++ (minor ++ '.' :: patch))

/-- **What fits a shape is a listed release number.** -/
theorem isListed_of_fits (hparts : parts ∈ releaseShapes) (h : FitsShape parts t) : IsListed t := by
  simp only [releaseShapes, List.mem_cons, List.not_mem_nil, or_false] at hparts
  rcases hparts with rfl | rfl | rfl | rfl
  · obtain ⟨_, _, rfl, rfl, patch, _, rfl, hpatch, rfl⟩ := h
    rw [List.append_nil]
    exact .five hpatch
  · obtain ⟨_, _, rfl, rfl, _, _, rfl, ⟨k, hk, rfl⟩, _, _, rfl, rfl, patch, _, rfl, hpatch, rfl⟩ :=
      h
    rw [List.append_nil]
    exact .eight hk hpatch
  · obtain ⟨_, _, rfl, rfl, minor, _, rfl, hminor, _, _, rfl, rfl, patch, _, rfl, hpatch, rfl⟩ := h
    rw [List.append_nil]
    exact .nine hminor hpatch
  · obtain ⟨_, _, rfl, rfl, minor, _, rfl, hminor, _, _, rfl, rfl, patch, _, rfl, hpatch, rfl⟩ := h
    rw [List.append_nil]
    exact .ten hminor hpatch

/-- **Every listed release number is of three numbers with dots between.** -/
theorem IsListed.isRelease (h : IsListed t) : IsRelease t := by
  cases h with
  | @five patch hpatch =>
    have hmajor : IsNumber ['5'] := isNumber_of_all (by decide) (by decide)
    have hminor : IsNumber ['7'] := isNumber_of_all (by decide) (by decide)
    exact ⟨['5'], ['7'], patch, hmajor, hminor, hpatch, by simp [joined_three]⟩
  | @eight k patch hk hpatch =>
    have hmajor : IsNumber ['8'] := isNumber_of_all (by decide) (by decide)
    have hdecimal : ['0', '1', '2', '3', '4'].all isDecimal = true := by decide
    have hk' : isDecimal k = true := List.all_eq_true.1 hdecimal k hk
    have hminor : IsNumber [k] :=
      isNumber_of_all (List.cons_ne_nil _ _) (by rw [List.all_cons, hk']; rfl)
    exact ⟨['8'], [k], patch, hmajor, hminor, hpatch, by simp [joined_three]⟩
  | @nine minor patch hminor hpatch =>
    have hmajor : IsNumber ['9'] := isNumber_of_all (by decide) (by decide)
    exact ⟨['9'], minor, patch, hmajor, hminor, hpatch, by simp [joined_three]⟩
  | @ten minor patch hminor hpatch =>
    have hmajor : IsNumber ['1', '0'] := isNumber_of_all (by decide) (by decide)
    exact ⟨['1', '0'], minor, patch, hmajor, hminor, hpatch, by simp [joined_three]⟩

section Series

variable {minor patch : List Char}

/-- The last number of a release number is read to its end, where no digit
follows it. -/
theorem takeShape?_patch (hpatch : IsNumber patch) (hrest : ∀ c ∈ rest.head?, isDecimal c = false) :
    takeShape? [.number] (patch ++ rest) = some patch := by
  rw [takeShape?_number hpatch hrest, takeShape?, Option.map_some, List.append_nil]

theorem takeShape?_dot_patch (hpatch : IsNumber patch)
    (hrest : ∀ c ∈ rest.head?, isDecimal c = false) :
    takeShape? [.exactly ".", .number] (".".toList ++ (patch ++ rest)) = some ('.' :: patch) := by
  rw [takeShape?_exactly, takeShape?_patch hpatch hrest]
  rfl

theorem takeShape?_minor_patch (hminor : IsNumber minor) (hpatch : IsNumber patch)
    (hrest : ∀ c ∈ rest.head?, isDecimal c = false) :
    takeShape? [.number, .exactly ".", .number] (minor ++ (".".toList ++ (patch ++ rest))) =
      some (minor ++ '.' :: patch) := by
  have hdot : ∀ c ∈ (".".toList ++ (patch ++ rest)).head?, isDecimal c = false := by
    rintro c ⟨⟩
    decide
  rw [takeShape?_number hminor hdot, takeShape?_dot_patch hpatch hrest]
  rfl

end Series

/-- **A listed release number is read to its end**, where no digit follows it. -/
theorem release?_of_isListed (h : IsListed t) (hrest : ∀ c ∈ rest.head?, isDecimal c = false) :
    release? (t ++ rest) = some t := by
  cases h with
  | @five patch hpatch =>
    refine release?_of_takeShape? (s := "5.7.".toList ++ (patch ++ rest)) (.head _) ?_
    rw [takeShape?_exactly, takeShape?_patch hpatch hrest]
    rfl
  | @eight k patch hk hpatch =>
    refine release?_of_takeShape? (s := "8.".toList ++ k :: (".".toList ++ (patch ++ rest)))
      (.tail _ (.head _)) ?_
    rw [takeShape?_exactly, takeShape?_oneOf hk, takeShape?_dot_patch hpatch hrest]
    rfl
  | @nine minor patch hminor hpatch =>
    have hread :=
      takeShape?_exactly "9." [.number, .exactly ".", .number]
        (minor ++ (".".toList ++ (patch ++ rest)))
    rw [takeShape?_minor_patch hminor hpatch hrest] at hread
    simpa using release?_of_takeShape? (.tail _ (.tail _ (.head _))) hread
  | @ten minor patch hminor hpatch =>
    have hread :=
      takeShape?_exactly "10." [.number, .exactly ".", .number]
        (minor ++ (".".toList ++ (patch ++ rest)))
    rw [takeShape?_minor_patch hminor hpatch hrest] at hread
    simpa using release?_of_takeShape? (.tail _ (.tail _ (.tail _ (.head _)))) hread

theorem IsNumber.append (h : IsNumber s) (hd : ∀ c ∈ d, isDecimal c = true) :
    IsNumber (s ++ d) := by
  refine ⟨List.append_ne_nil_of_left_ne_nil h.1 d, fun c hc => ?_⟩
  rcases List.mem_append.1 hc with hc | hc
  · exact h.2 c hc
  · exact hd c hc

/-- A listed release number with more digits behind it is one, too. -/
theorem IsListed.append (h : IsListed t) (hd : ∀ c ∈ d, isDecimal c = true) :
    IsListed (t ++ d) := by
  cases h with
  | five hpatch =>
    rw [List.append_assoc]
    exact .five (hpatch.append hd)
  | eight hminor hpatch =>
    rw [List.append_assoc, List.cons_append, List.cons_append]
    exact .eight hminor (hpatch.append hd)
  | nine hminor hpatch =>
    rw [List.append_assoc, List.append_assoc, List.cons_append]
    exact .nine hminor (hpatch.append hd)
  | ten hminor hpatch =>
    rw [List.append_assoc, List.append_assoc, List.cons_append]
    exact .ten hminor (hpatch.append hd)

/-- **A listed release number is read with all the digits that follow it.** -/
theorem release?_append (h : IsListed t) (rest : List Char) :
    release? (t ++ rest) = some (t ++ rest.takeWhile isDecimal) := by
  have hlisted : IsListed (t ++ rest.takeWhile isDecimal) :=
    h.append fun c hc => List.mem_takeWhile_imp hc
  have hread := release?_of_isListed hlisted (head?_dropWhile isDecimal rest)
  rwa [List.append_assoc, List.takeWhile_append_dropWhile] at hread

/-- **The reader of a release number takes the longest listed one at the front
of a text.** -/
theorem release?_eq_some_iff :
    release? s = some t ↔ IsListed t ∧ t <+: s ∧ ∀ u, IsListed u → u <+: s → u <+: t := by
  constructor
  · intro h
    obtain ⟨⟨parts, hparts, hfits⟩, hprefix⟩ := fits_of_release? h
    refine ⟨isListed_of_fits hparts hfits, hprefix, ?_⟩
    rintro u hu ⟨rest, rfl⟩
    have hread := (release?_append hu rest).symm.trans h
    rw [← Option.some.inj hread]
    exact List.prefix_append u _
  · rintro ⟨hlisted, ⟨rest, rfl⟩, hlongest⟩
    have hread := release?_append hlisted rest
    -- the digits that follow belong to a listed number, which is no longer
    have hmore : IsListed (t ++ rest.takeWhile isDecimal) :=
      hlisted.append fun c hc => List.mem_takeWhile_imp hc
    have hfront : t ++ rest.takeWhile isDecimal <+: t ++ rest :=
      (List.prefix_append_right_inj t).2 (List.takeWhile_prefix isDecimal)
    have hsame : t = t ++ rest.takeWhile isDecimal :=
      (List.prefix_append t _).eq_of_length_le (hlongest _ hmore hfront).length_le
    rw [hread, ← hsame]

theorem release?_eq_none_iff : release? s = none ↔ ∀ t, IsListed t → ¬ t <+: s := by
  constructor
  · rintro hnone t ht ⟨rest, rfl⟩
    rw [release?_append ht] at hnone
    exact nomatch hnone
  · intro hno
    cases hread : release? s with
    | none => rfl
    | some t =>
      obtain ⟨hlisted, hprefix, -⟩ := release?_eq_some_iff.1 hread
      exact absurd hprefix (hno t hlisted)

/-- **A version that was found in a name is three numbers with dots between.** -/
theorem isRelease_of_version? (h : version? name = some v) : IsRelease v.toList := by
  obtain ⟨found, hfound, rfl⟩ := Option.map_eq_some_iff.1 h
  obtain ⟨s, -, hs⟩ := exists_suffix_of_leftmost hfound
  obtain ⟨⟨parts, hparts, hfits⟩, -⟩ := fits_of_release? hs
  rw [String.toList_ofList]
  exact (isListed_of_fits hparts hfits).isRelease

theorem dot_not_mem_of_isNumber (h : IsNumber s) : '.' ∉ s := by
  intro hdot
  have hdecimal := h.2 '.' hdot
  revert hdecimal
  decide

theorem isNumber_digits (n : Nat) : IsNumber (digits n) :=
  ⟨digits_ne_nil n, fun c hc => isDecimal_of_isDigit (digits_isDigit n c hc)⟩

theorem isRelease_text (major minor patch : UInt64) :
    IsRelease (Version.mk [major, minor, patch]).text.toList := by
  refine ⟨_, _, _, isNumber_digits major.toNat, isNumber_digits minor.toNat,
    isNumber_digits patch.toNat, ?_⟩
  rw [Version.text, String.toList_ofList]
  rfl

theorem mem_isRelease {c : Char} (h : IsRelease s) (hc : c ∈ s) : c = '.' ∨ isDecimal c = true := by
  obtain ⟨major, minor, patch, hmajor, hminor, hpatch, rfl⟩ := h
  simp only [joined_three, List.mem_append, List.mem_cons] at hc
  rcases hc with hc | rfl | hc | rfl | hc
  · exact .inr (hmajor.2 c hc)
  · exact .inl rfl
  · exact .inr (hminor.2 c hc)
  · exact .inl rfl
  · exact .inr (hpatch.2 c hc)

/-- Three numbers and two dots are five characters at least. -/
theorem length_of_isRelease (h : IsRelease s) : 5 ≤ s.length := by
  obtain ⟨major, minor, patch, hmajor, hminor, hpatch, rfl⟩ := h
  have hmajor := List.length_pos_iff.2 hmajor.1
  have hminor := List.length_pos_iff.2 hminor.1
  have hpatch := List.length_pos_iff.2 hpatch.1
  rw [joined_three]
  simp only [List.length_append, List.length_cons]
  omega

theorem isBlank_of_isRelease (h : IsRelease s) : ∀ c ∈ s, isBlank c = false := by
  intro c hc
  rcases mem_isRelease h hc with rfl | hdecimal
  · decide
  · exact isBlank_of_isDecimal hdecimal

/-- A release number is cut at its dots into its numbers, and its short version
is the first two. -/
theorem shortText_of_isRelease (h : IsRelease v.toList) :
    ∃ major minor patch, IsNumber major ∧ IsNumber minor ∧
      pieces '.' v.toList = [major, minor, patch] ∧
      (Version.shortText v).toList = major ++ '.' :: minor := by
  obtain ⟨major, minor, patch, hmajor, hminor, hpatch, hv⟩ := h
  have hpieces : pieces '.' v.toList = [major, minor, patch] := by
    rw [hv]
    refine pieces_joined (List.cons_ne_nil _ _) fun n hn => ?_
    simp only [List.mem_cons, List.not_mem_nil, or_false] at hn
    rcases hn with rfl | rfl | rfl
    · exact dot_not_mem_of_isNumber hmajor
    · exact dot_not_mem_of_isNumber hminor
    · exact dot_not_mem_of_isNumber hpatch
  refine ⟨major, minor, patch, hmajor, hminor, hpieces, ?_⟩
  simp [Version.shortText, hpieces, joined]

/-- A release number has two dots, and its short version has one. -/
theorem count_dot_of_isRelease (h : IsRelease v.toList) :
    v.toList.count '.' = 2 ∧ (Version.shortText v).toList.count '.' = 1 := by
  obtain ⟨major, minor, patch, hmajor, hminor, hpieces, hshort⟩ := shortText_of_isRelease h
  have hlength := length_pieces '.' v.toList
  rw [hpieces] at hlength
  have hmajor' : major.count '.' = 0 := List.count_eq_zero.2 (dot_not_mem_of_isNumber hmajor)
  have hminor' : minor.count '.' = 0 := List.count_eq_zero.2 (dot_not_mem_of_isNumber hminor)
  refine ⟨(Nat.succ.inj hlength).symm, ?_⟩
  rw [hshort, List.count_append, List.count_cons_self, hmajor', hminor']

/-- No blank surrounds a release number or its short version, and neither is empty. -/
theorem trimmed_of_isRelease (h : IsRelease v.toList) :
    trimmed v = v ∧ trimmed (Version.shortText v) = Version.shortText v := by
  have hblank := isBlank_of_isRelease h
  obtain ⟨major, minor, patch, hmajor, hminor, hpieces, hshort⟩ := shortText_of_isRelease h
  have hv := joined_pieces '.' v.toList
  rw [hpieces, joined_three] at hv
  have hpart : (Version.shortText v).toList <+: v.toList := by
    rw [hshort, ← hv]
    exact ⟨'.' :: patch, by simp⟩
  have hblank' : ∀ c ∈ (Version.shortText v).toList, isBlank c = false := fun c hc =>
    hblank c (hpart.subset hc)
  constructor <;> apply String.toList_injective <;> rw [toList_trimmed]
  · exact trim_of_not_blank hblank
  · exact trim_of_not_blank hblank'

theorem ne_empty_of_isRelease (h : IsRelease v.toList) : v ≠ "" ∧ Version.shortText v ≠ "" := by
  obtain ⟨hcount, hcount'⟩ := count_dot_of_isRelease h
  constructor
  · rintro rfl
    exact nomatch hcount
  · intro hempty
    rw [hempty] at hcount'
    exact nomatch hcount'

end FileName

end ReleaseCatalog
