import Mathlib.Data.List.DropRight
import ReleaseCatalog.Proofs.ReleaseNumber
import ReleaseCatalog.Proofs.Sequence
import ReleaseCatalog.Request

/-!
# What a file name tells

Whatever a name is made of, only a few words are recognized in it besides the version,
and each of them is in the form that a request brings the words of a user into.

* `baseName_of_slash`: the file name at the end of a URL is what stands behind
  its last slash.
* `Details.ofName_ok_iff`: a name tells all exactly if it tells flavor, system,
  version and architecture.
* `Details.Plain`: what a name tells is in the form that requests are compared in.
* `Details.Describes.accepted`: a tarball that says what its name says is found
  by a request for that.
-/

namespace ReleaseCatalog

open Text

namespace FileName

variable {name x : String} {s : List Char} {os : OperatingSystem} {arch : Architecture}

/-- **The base name is what stands behind the last slash.** -/
theorem baseName_of_slash (hslash : '/' ∉ name.toList) (hne : name ≠ "") :
    baseName (String.ofList (s ++ '/' :: name.toList)) = name := by
  have hlist : s ++ '/' :: name.toList ≠ [] :=
    List.append_ne_nil_of_right_ne_nil s (List.cons_ne_nil _ _)
  have hchars : name.toList ≠ [] := fun h => hne (String.toList_eq_nil_iff.1 h)
  -- there is no slash at the end to be left out
  have hlast : (s ++ '/' :: name.toList).getLast hlist ∈ name.toList := by
    rw [List.getLast_append_of_right_ne_nil _ _ (List.cons_ne_nil _ _), List.getLast_cons hchars]
    exact List.getLast_mem hchars
  have hkept : ((s ++ '/' :: name.toList).reverse.dropWhile (· = '/')).reverse =
      s ++ '/' :: name.toList := by
    refine List.rdropWhile_eq_self_iff.2 fun h hend => ?_
    rw [of_decide_eq_true hend] at hlast
    exact hslash hlast
  unfold baseName
  dsimp only
  rw [String.toList_ofList, hkept, pieces_append hslash, List.getLast?_concat, Option.getD_some,
    String.ofList_toList]

/-- The flavors that names are recognized by. -/
def knownFlavors : List String := ["mysql", "ndb", "shell", "percona"]

theorem mem_of_flavor? (h : flavor? name = some x) : x ∈ knownFlavors := by
  have hall : ∀ start ∈ flavorStarts, start.2 ∈ knownFlavors := by decide
  obtain ⟨start, hstart, rfl⟩ := Option.map_eq_some_iff.1 h
  exact hall start (List.mem_of_find?_eq_some hstart)

theorem os?_cases (h : os? name = some os) : os = .linux ∨ os = .darwin := by
  unfold os? at h
  split at h
  · exact .inl (Option.some.inj h).symm
  · split at h
    · exact .inr (Option.some.inj h).symm
    · exact nomatch h

theorem arch?_cases (h : arch? name = some arch) : arch = .amd64 ∨ arch = .arm64 := by
  have hall : ∀ a ∈ archSpellings, Architecture.ofText a = .amd64 ∨
      Architecture.ofText a = .arm64 := by
    decide +kernel
  obtain ⟨a, ha, rfl⟩ := Option.map_eq_some_iff.1 h
  obtain ⟨s, -, hs⟩ := exists_suffix_of_leftmost ha
  exact hall a (List.mem_of_find?_eq_some hs)

theorem orMissing_ok_iff {α : Type} {property : Property} {found : Option α} {a : α} :
    orMissing property found = .ok a ↔ found = some a := by
  cases found with
  | none => exact iff_of_false (fun h => nomatch h) fun h => nomatch h
  | some b =>
    exact ⟨fun h => congrArg some (Except.ok.inj h),
      fun h => congrArg Except.ok (Option.some.inj h)⟩

namespace Details

variable {d : Details}

/-- **A name tells all exactly if each property is found in it.** -/
theorem ofName_ok_iff :
    ofName name = .ok d ↔
      flavor? name = some d.flavor ∧ os? name = some d.os ∧ version? name = some d.version ∧
        arch? name = some d.arch ∧ d.shortVersion = Version.shortText d.version ∧
        d.minimal = isMinimal name := by
  unfold ofName
  simp only [bind_ok_iff, orMissing_ok_iff]
  constructor
  · rintro ⟨flavor, hflavor, os, hos, version, hversion, arch, harch, h⟩
    obtain rfl := pure_eq_ok.1 h
    exact ⟨hflavor, hos, hversion, harch, rfl, rfl⟩
  · rintro ⟨hflavor, hos, hversion, harch, hshort, hminimal⟩
    refine ⟨_, hflavor, _, hos, _, hversion, _, harch, ?_⟩
    rw [← hshort, ← hminimal]
    rfl

/-- A name that does not tell everything tells nothing. -/
theorem ofName_of_none (h : flavor? name = none ∨ os? name = none ∨ version? name = none ∨
    arch? name = none) :
    ∃ property, ofName name = .error property := by
  cases hname : ofName name with
  | error property => exact ⟨property, rfl⟩
  | ok d =>
    obtain ⟨hflavor, hos, hversion, harch, -, -⟩ := ofName_ok_iff.1 hname
    rcases h with h | h | h | h
    · exact nomatch h.symm.trans hflavor
    · exact nomatch h.symm.trans hos
    · exact nomatch h.symm.trans hversion
    · exact nomatch h.symm.trans harch

/-- An empty name tells nothing. -/
theorem ne_empty_of_ofName (h : ofName name = .ok d) : name ≠ "" := by
  rintro rfl
  have hnone : version? "" = none := by decide +kernel
  exact nomatch hnone.symm.trans (ofName_ok_iff.1 h).2.2.1

/-- The words are in the form that a request brings the words of a user into,
and the version is a release number with its short version. -/
structure Plain (d : Details) : Prop where
  flavor : plainName d.flavor = d.flavor ∧ lowered d.flavor = d.flavor
  os : OperatingSystem.ofText d.os.name = d.os ∧ lowered d.os.name = d.os.name ∧ d.os.name ≠ ""
  arch : Architecture.ofText d.arch.name = d.arch ∧ lowered d.arch.name = d.arch.name
  version : IsRelease d.version.toList
  shortVersion : d.shortVersion = Version.shortText d.version

/-- **Whatever a name tells is in plain form.** -/
theorem plain_of_ofName (h : ofName name = .ok d) : d.Plain := by
  obtain ⟨hflavor, hos, hversion, harch, hshort, -⟩ := ofName_ok_iff.1 h
  have hflavors : ∀ x ∈ knownFlavors, plainName x = x ∧ lowered x = x := by decide +kernel
  refine ⟨hflavors _ (mem_of_flavor? hflavor), ?_, ?_, isRelease_of_version? hversion, hshort⟩
  · rcases os?_cases hos with heq | heq <;> rw [heq] <;> decide +kernel
  · rcases arch?_cases harch with heq | heq <;> rw [heq] <;> decide +kernel

/-- A tarball says what its name tells. -/
structure Describes (d : Details) (t : Tarball) : Prop where
  flavor : t.flavor = d.flavor
  os : t.os = d.os.name
  arch : t.arch = d.arch.name
  version : t.version = d.version
  shortVersion : t.shortVersion = d.shortVersion
  minimal : t.minimal = d.minimal

end Details

end FileName

/-- The request for a tarball by one of its versions, in the tarball's own words. -/
def Tarball.requestFor (t : Tarball) (version : String) : Request :=
  { Request.ofText version t.flavor t.os t.arch with minimal := t.minimal }

@[simp] theorem Tarball.requestFor_flavor (t : Tarball) (v : String) :
    (t.requestFor v).flavor = plainName t.flavor := by rw [requestFor, Request.ofText]

@[simp] theorem Tarball.requestFor_os (t : Tarball) (v : String) :
    (t.requestFor v).os = OperatingSystem.ofText t.os := by rw [requestFor, Request.ofText]

@[simp] theorem Tarball.requestFor_arch (t : Tarball) (v : String) :
    (t.requestFor v).arch = Architecture.ofText t.arch := by rw [requestFor, Request.ofText]

theorem Request.accepts_iff {r : Request} {t : Tarball} :
    r.accepts t = true ↔
      (t.version = r.version ∨ t.shortVersion = r.version) ∧ lowered t.flavor = r.flavor ∧
      lowered t.os = r.os.name ∧
        (t.arch = "" ∨ lowered t.arch = r.arch.name) ∧ (r.minimal = true → t.minimal = true) := by
  unfold accepts
  simp only [Bool.and_eq_true, Bool.or_eq_true, beq_iff_eq, Bool.not_eq_true', and_assoc]
  cases r.minimal <;> simp

theorem Request.accepts_family_iff {r : Request} {t : Tarball} :
    r.family.accepts t = true ↔
      (t.version = r.shortVersion ∨ t.shortVersion = r.shortVersion) ∧ lowered t.flavor = r.flavor ∧
        lowered t.os = r.os.name ∧ (t.arch = "" ∨ lowered t.arch = r.arch.name) := by
  rw [accepts_iff]
  simp [family]

namespace FileName.Details.Describes

variable {d : Details} {t : Tarball} {v : String}

/-- The words of the tarball are read as what its name tells. -/
theorem words (h : d.Describes t) (hp : d.Plain) :
    lowered t.flavor = plainName t.flavor ∧ lowered t.os = (OperatingSystem.ofText t.os).name ∧
      lowered t.arch = (Architecture.ofText t.arch).name := by
  obtain ⟨hflavor, hlower⟩ := hp.flavor
  obtain ⟨hos, hosLower, -⟩ := hp.os
  obtain ⟨harch, harchLower⟩ := hp.arch
  rw [h.flavor, h.os, h.arch, hos, harch]
  exact ⟨hlower.trans hflavor.symm, hosLower, harchLower⟩

/-- **A request for a tarball in its own words finds it**, by the version and by
the short version, and the family of the request has it, too. -/
theorem accepted (h : d.Describes t) (hp : d.Plain) (hv : v ∈ [t.version, t.shortVersion]) :
    (t.requestFor v).accepts t = true ∧ (t.requestFor v).shortVersion = t.shortVersion ∧
      (t.requestFor v).family.accepts t = true := by
  obtain ⟨hflavor, hos, harch⟩ := h.words hp
  obtain ⟨htrim, htrim'⟩ := trimmed_of_isRelease hp.version
  obtain ⟨hcount, hcount'⟩ := count_dot_of_isRelease hp.version
  rw [← hp.shortVersion, ← h.shortVersion] at htrim' hcount'
  rw [← h.version] at htrim hcount
  have hversion : (t.requestFor v).version = v := by
    show trimmed v = v
    simp only [List.mem_cons, List.not_mem_nil, or_false] at hv
    rcases hv with rfl | rfl
    · exact htrim
    · exact htrim'
  have hshort : (t.requestFor v).shortVersion = t.shortVersion := by
    unfold Request.shortVersion
    rw [hversion]
    simp only [List.mem_cons, List.not_mem_nil, or_false] at hv
    rcases hv with rfl | rfl
    · rw [if_pos hcount.ge, h.version, h.shortVersion, hp.shortVersion]
    · rw [if_neg (by omega)]
  rw [← Tarball.requestFor_flavor t v] at hflavor
  rw [← Tarball.requestFor_os t v] at hos
  rw [← Tarball.requestFor_arch t v] at harch
  refine ⟨Request.accepts_iff.2 ⟨?_, hflavor, hos, .inr harch, id⟩, hshort,
    Request.accepts_family_iff.2 ⟨.inr hshort.symm, hflavor, hos, .inr harch⟩⟩
  rw [hversion]
  simpa [eq_comm] using hv

end FileName.Details.Describes

end ReleaseCatalog
