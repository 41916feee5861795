import Mathlib.Data.List.DropRight
import Mathlib.Data.List.Infix
import ReleaseCatalog.Proofs.FileName
import ReleaseCatalog.Proofs.NextRelease

/-!
# Which number of a name is its version

A name may have several numbers in it, and parts of numbers that look like a
release number. The version of a name is the first listed release number in it,
wherever that starts, and the longest one there.

* `version?_eq_some_iff`, `version?_eq_none_iff`: the version is the first
  listed number, `FoundAt`.
* `version?_leftmost_longest`: this for all names, and that a next release can
  be told from the version.
* `FoundAt.wholeAt`: the version is the end of a whole number in the name.
* `Details.ofName_whole_iff`: it is the whole of that number exactly if the
  number is of a listed major release.
* `Details.ofName_cuts_number`: names from which the end of another release's
  number is taken.
-/

namespace ReleaseCatalog

open Text

namespace FileName

variable {name v : String} {s front found rest : List Char}

/-- The first listed release number in a text, and the longest one that starts
there, with what stands in front of it and what follows it. -/
structure FoundAt (s front found rest : List Char) : Prop where
  text : s = front ++ (found ++ rest)
  listed : IsListed found
  longest : ∀ t, IsListed t → t <+: found ++ rest → t <+: found
  first : ∀ u, u ≠ [] → u <:+ front → ∀ t, IsListed t → ¬ t <+: u ++ (found ++ rest)

/-- What is found can be told by reading a release number at each place. -/
theorem foundAt_iff :
    FoundAt s front found rest ↔
      s = front ++ (found ++ rest) ∧ release? (found ++ rest) = some found ∧
        ∀ u, u ≠ [] → u <:+ front → release? (u ++ (found ++ rest)) = none := by
  constructor
  · intro h
    refine ⟨h.text, release?_eq_some_iff.2 ⟨h.listed, List.prefix_append found rest, h.longest⟩,
      fun u hne hu => ?_⟩
    exact release?_eq_none_iff.2 (h.first u hne hu)
  · rintro ⟨htext, hread, hfirst⟩
    obtain ⟨hlisted, -, hlongest⟩ := release?_eq_some_iff.1 hread
    exact ⟨htext, hlisted, hlongest, fun u hne hu => release?_eq_none_iff.1 (hfirst u hne hu)⟩

instance (s front found rest : List Char) : Decidable (FoundAt s front found rest) :=
  decidable_of_iff (s = front ++ (found ++ rest) ∧ release? (found ++ rest) = some found ∧
      ∀ u ∈ front.tails, u ≠ [] → release? (u ++ (found ++ rest)) = none) (by
    rw [foundAt_iff]
    simp only [List.mem_tails]
    refine and_congr_right fun _ => and_congr_right fun _ => forall_congr' fun u => ?_
    exact ⟨fun h hne hu => h hu hne, fun h hu hne => h hne hu⟩)

/-- **The version of a name is the first listed release number in it.** -/
theorem version?_eq_some_iff :
    version? name = some v ↔ ∃ front rest, FoundAt name.toList front v.toList rest := by
  have hchars : version? name = some v ↔ leftmost release? name.toList = some v.toList := by
    unfold version?
    rw [Option.map_eq_some_iff]
    constructor
    · rintro ⟨found, hfound, rfl⟩
      rw [hfound, String.toList_ofList]
    · intro h
      exact ⟨v.toList, h, String.ofList_toList⟩
  rw [hchars, leftmost_eq_some_iff]
  constructor
  · rintro ⟨front, t, htext, hread, hfirst⟩
    obtain ⟨rest, rfl⟩ := (release?_eq_some_iff.1 hread).2.1
    exact ⟨front, rest, foundAt_iff.2 ⟨htext, hread, hfirst⟩⟩
  · rintro ⟨front, rest, hfound⟩
    obtain ⟨htext, hread, hfirst⟩ := foundAt_iff.1 hfound
    exact ⟨front, v.toList ++ rest, htext, hread, hfirst⟩

/-- **A name has no version exactly if no listed release number is in it.** -/
theorem version?_eq_none_iff : version? name = none ↔ ∀ t, t <:+: name.toList → ¬ IsListed t := by
  unfold version?
  rw [Option.map_eq_none_iff, leftmost_eq_none_iff]
  simp only [release?_eq_none_iff, List.infix_iff_prefix_suffix]
  constructor
  · rintro h t ⟨u, htu, hu⟩ hlisted
    exact h u hu t hlisted htu
  · intro h u hu t hlisted htu
    exact h t ⟨u, htu, hu⟩ hlisted

/-- A version that was found has three numbers. -/
theorem triple?_of_isRelease (h : IsRelease v.toList) : (Version.ofText v).triple?.isSome := by
  obtain ⟨major, minor, patch, -, -, hpieces, -⟩ := shortText_of_isRelease h
  refine Version.triple?_isSome_iff.2 ?_
  rw [Version.ofText, hpieces]
  exact le_rfl

/-- A release number is its short version with its last number behind a dot. -/
theorem eq_shortText_append (h : IsRelease v.toList) :
    ∃ major minor patch, pieces '.' v.toList = [major, minor, patch] ∧
      pieces '.' (Version.shortText v).toList = [major, minor] ∧
      v.toList = (Version.shortText v).toList ++ '.' :: patch := by
  obtain ⟨major, minor, patch, hmajor, hminor, hpieces, hshort⟩ := shortText_of_isRelease h
  have hjoined := joined_pieces '.' v.toList
  rw [hpieces, joined_three] at hjoined
  refine ⟨major, minor, patch, hpieces, ?_, ?_⟩
  · have hdot : ∀ p ∈ [major], '.' ∉ p := by
      intro p hp
      rw [List.mem_singleton.1 hp]
      exact dot_not_mem_of_isNumber hmajor
    have hone : pieces '.' (joined '.' [major]) = [major] :=
      pieces_joined (List.cons_ne_nil _ _) hdot
    have hsingle : joined '.' [major] = major := by simp [joined]
    rw [hsingle] at hone
    rw [hshort, pieces_append (dot_not_mem_of_isNumber hminor), hone]
    rfl
  · rw [hshort, ← hjoined, List.append_assoc]
    rfl

/-- **The version of a name is the first listed release number in it, and the
longest one there.** A name has a version exactly if there is a listed number
anywhere in it. The version has three numbers, and the short version is that
without the last one, so a next release can always be told from it. -/
theorem version?_leftmost_longest (name : String) :
    (version? name = none ↔ ¬ ∃ t, t <:+: name.toList ∧ IsListed t) ∧
    (∀ v, version? name = some v ↔ ∃ front rest, FoundAt name.toList front v.toList rest) ∧
    ∀ v, version? name = some v →
      (∃ major minor patch, pieces '.' v.toList = [major, minor, patch] ∧
        pieces '.' (Version.shortText v).toList = [major, minor] ∧
        v.toList = (Version.shortText v).toList ++ '.' :: patch) ∧
      (Version.ofText v).triple?.isSome ∧
      ∀ (p : Policy) (short flavor : String) (os : OperatingSystem),
        (p.nextRelease (Version.ofText v) short flavor os).outcome ≠ .error .notFound := by
  refine ⟨?_, fun v => version?_eq_some_iff, fun v hv => ?_⟩
  · rw [version?_eq_none_iff]
    simp only [not_exists, not_and]
  · have hrelease := isRelease_of_version? hv
    have htriple := triple?_of_isRelease hrelease
    refine ⟨eq_shortText_append hrelease, htriple, fun p short flavor os hno => ?_⟩
    rcases Policy.nextRelease_cases p flavor os htriple with ⟨k, hk, herror⟩ | hok
    · rw [herror short] at hno
      exact hk (Except.error.inj hno)
    · obtain ⟨g, hg, -⟩ := hok short
      rw [Report.outcome_ok_iff.2 hg] at hno
      exact nomatch hno

/-- What only starts like a listed number is passed over, and what goes on
behind one is left. -/
example : version? "mysql-8.10.1-10.8.0.3" = some "10.8.0" := by
  decide +kernel

/-! ### The whole number -/

/-- A release number in a text, with no digit on either side of it. -/
structure WholeAt (s front number rest : List Char) : Prop where
  text : s = front ++ (number ++ rest)
  release : IsRelease number
  left : ∀ c ∈ front.getLast?, isDecimal c = false
  right : ∀ c ∈ rest.head?, isDecimal c = false

/-- The major release that a release number is of. -/
def majorOf (number : List Char) : List Char := number.takeWhile (· ≠ '.')

/-- The major releases that there are listed release numbers of. -/
def listedMajors : List (List Char) := [['5'], ['8'], ['9'], ['1', '0']]

variable {t extra : List Char}

theorem majorOf_mem_of_isListed (h : IsListed t) : majorOf t ∈ listedMajors := by
  cases h with
  | five => exact .head _
  | eight => exact .tail _ (.head _)
  | nine => exact .tail _ (.tail _ (.head _))
  | ten => exact .tail _ (.tail _ (.tail _ (.head _)))

/-- Digits in front of a release number belong to its major release. -/
theorem majorOf_append (hextra : ∀ c ∈ extra, isDecimal c = true) :
    majorOf (extra ++ t) = extra ++ majorOf t := by
  refine List.takeWhile_append_of_pos fun c hc => decide_eq_true ?_
  rintro rfl
  exact absurd (hextra '.' hc) (by decide)

/-- **With digits in front, a listed release number is of no listed major
release**: none of those is the end of another one. -/
theorem majorOf_append_mem_iff (h : IsListed t) (hextra : ∀ c ∈ extra, isDecimal c = true) :
    majorOf (extra ++ t) ∈ listedMajors ↔ extra = [] := by
  have hends : ∀ m ∈ listedMajors, ∀ n ∈ listedMajors, m <:+ n → m = n := by decide
  rw [majorOf_append hextra]
  constructor
  · intro hmem
    have hsame := hends _ (majorOf_mem_of_isListed h) _ hmem (List.suffix_append extra (majorOf t))
    have hlength := congrArg List.length hsame
    rw [List.length_append] at hlength
    exact List.length_eq_zero_iff.1 (by omega)
  · rintro rfl
    exact majorOf_mem_of_isListed h

/-- Digits in front of a release number make another one. -/
theorem IsRelease.append_left (h : IsRelease t) (hextra : ∀ c ∈ extra, isDecimal c = true) :
    IsRelease (extra ++ t) := by
  obtain ⟨major, minor, patch, hmajor, hminor, hpatch, rfl⟩ := h
  have hlonger : IsNumber (extra ++ major) := by
    refine ⟨List.append_ne_nil_of_right_ne_nil extra hmajor.1, fun c hc => ?_⟩
    rcases List.mem_append.1 hc with hc | hc
    · exact hextra c hc
    · exact hmajor.2 c hc
  refine ⟨extra ++ major, minor, patch, hlonger, hminor, hpatch, ?_⟩
  rw [joined_three, joined_three, List.append_assoc]

/-- What is found is read to its end. -/
theorem FoundAt.right (h : FoundAt s front found rest) : ∀ c ∈ rest.head?, isDecimal c = false := by
  intro c hc
  rw [Bool.eq_false_iff]
  intro hdecimal
  cases rest with
  | nil => exact absurd hc.symm (Option.some_ne_none c)
  | cons x more =>
    obtain rfl : x = c := Option.some.inj hc
    -- with one more digit there is a longer listed number
    have hlisted : IsListed (found ++ [x]) := h.listed.append fun c hc => by
      rw [List.mem_singleton.1 hc]
      exact hdecimal
    have hfront : found ++ [x] <+: found ++ x :: more := ⟨more, by simp⟩
    have hlength := (h.longest _ hlisted hfront).length_le
    rw [List.length_append, List.length_singleton] at hlength
    omega

/-- **The version of a name is the end of a whole number in it**, of which the
digits right in front of the version are the rest. -/
theorem FoundAt.wholeAt (h : FoundAt s front found rest) :
    WholeAt s (front.rdropWhile isDecimal) (front.rtakeWhile isDecimal ++ found) rest := by
  have hdigits : ∀ c ∈ front.rtakeWhile isDecimal, isDecimal c = true := fun c hc =>
    List.mem_rtakeWhile_imp hc
  refine ⟨?_, h.listed.isRelease.append_left hdigits, fun c hc => ?_, h.right⟩
  · rw [List.append_assoc, ← List.append_assoc, List.rdropWhile_append_rtakeWhile]
    exact h.text
  · obtain ⟨hne, rfl⟩ := List.mem_getLast?_eq_getLast hc
    exact Bool.eq_false_iff.2 (List.rdropWhile_last_not isDecimal front hne)

/-- There are no digits at the end of a text exactly if its last character is none. -/
theorem rtakeWhile_eq_nil_iff_getLast? :
    front.rtakeWhile isDecimal = [] ↔ ∀ c ∈ front.getLast?, isDecimal c = false := by
  cases front using List.reverseRecOn with
  | nil => simp
  | append_singleton front c => simp

/-- **The version of a name is a whole number of it exactly if that number is of
a listed major release.** It is the end of a whole number of the name, and a
digit stands in front of it exactly if that number is of another major release
than the listed ones. -/
theorem Details.ofName_whole_iff {d : Details} (h : Details.ofName name = .ok d) :
    (∃ front rest, FoundAt name.toList front d.version.toList rest) ∧
    ∀ front rest, FoundAt name.toList front d.version.toList rest →
      ∃ before extra, front = before ++ extra ∧ (∀ c ∈ extra, isDecimal c = true) ∧
        WholeAt name.toList before (extra ++ d.version.toList) rest ∧
        ((∀ c ∈ front.getLast?, isDecimal c = false) ↔
          majorOf (extra ++ d.version.toList) ∈ listedMajors) := by
  have hversion : version? name = some d.version := (ofName_ok_iff.1 h).2.2.1
  refine ⟨version?_eq_some_iff.1 hversion, fun front rest hfound => ?_⟩
  have hdigits : ∀ c ∈ front.rtakeWhile isDecimal, isDecimal c = true := fun c hc =>
    List.mem_rtakeWhile_imp hc
  refine ⟨front.rdropWhile isDecimal, front.rtakeWhile isDecimal,
    (List.rdropWhile_append_rtakeWhile ..).symm, hdigits, hfound.wholeAt, ?_⟩
  rw [← rtakeWhile_eq_nil_iff_getLast?, majorOf_append_mem_iff hfound.listed hdigits]

/-- A release of `110`, of which the version of `10` at its end is taken. -/
theorem Details.ofName_whole_iff_ten :
    let name := "Percona-Server-110.11.2-Linux.x86_64.glibc2.35.tar.gz"
    let d : Details := ⟨"percona", .linux, .amd64, "10.11.2", "10.11", false⟩
    ofName name = .ok d ∧
    ∃ before extra rest, WholeAt name.toList before (extra ++ d.version.toList) rest ∧
      majorOf (extra ++ d.version.toList) ∉ listedMajors := by
  intro name d
  have hname : ofName name = .ok d := by decide +kernel
  have hfound : FoundAt name.toList "Percona-Server-1".toList d.version.toList
      "-Linux.x86_64.glibc2.35.tar.gz".toList := by
    decide +kernel
  obtain ⟨before, extra, -, -, hwhole, hiff⟩ := (ofName_whole_iff hname).2 _ _ hfound
  refine ⟨hname, before, extra, _, hwhole, fun hmem => ?_⟩
  have hlast := hiff.2 hmem '1' rfl
  revert hlast
  decide

/-- **A release of another series is taken for the listed one that its number
ends in.** The name of release `18.0.37` is told to be of version `8.0.37`, and
that of release `19.1.0` to be of version `9.1.0`; the digit in front is left. -/
theorem Details.ofName_cuts_number :
    ofName "mysql-shell-18.0.37-linux-glibc2.17-x86-64bit.tar.gz" =
        .ok ⟨"shell", .linux, .amd64, "8.0.37", "8.0", false⟩ ∧
      FoundAt "mysql-shell-18.0.37-linux-glibc2.17-x86-64bit.tar.gz".toList "mysql-shell-1".toList
        "8.0.37".toList
        "-linux-glibc2.17-x86-64bit.tar.gz".toList ∧
      "mysql-shell-1".toList.getLast?.map isDecimal = some true ∧
      ofName "Percona-Server-19.1.0-1-Linux.x86_64.glibc2.35.tar.gz" =
        .ok ⟨"percona", .linux, .amd64, "9.1.0", "9.1", false⟩ ∧
      FoundAt "Percona-Server-19.1.0-1-Linux.x86_64.glibc2.35.tar.gz".toList
        "Percona-Server-1".toList "9.1.0".toList
        "-1-Linux.x86_64.glibc2.35.tar.gz".toList ∧
      "Percona-Server-1".toList.getLast?.map isDecimal = some true := by
  decide +kernel

end FileName

end ReleaseCatalog
