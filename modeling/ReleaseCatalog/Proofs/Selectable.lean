import ReleaseCatalog.Integrity
import ReleaseCatalog.Proofs.Dict
import ReleaseCatalog.Proofs.FileName
import ReleaseCatalog.Proofs.Text.Lower

/-!
# Tarballs that no request finds

Of the words of a request blanks and case are left out and the spellings in use
for a platform are resolved, while the fields of a tarball are only brought into
lower case. So a tarball that spells its platform in another way than the
catalog does is there, but cannot be asked for.

* `standsFor_eq_lowered_iff`: the fields for which the two readings meet.
* `Tarball.requestFor_accepts_iff`: the tarballs that are found by a request in
  their own words, and that no other request finds any more of them.
* `Tarball.requestFor_misses`: complete tarballs that are not found.
-/

namespace ReleaseCatalog

open Text

/-- The other spellings of operating systems, with the names that they stand for. -/
def OperatingSystem.spellings : Dict String :=
  .ofList [("osx", "darwin"), ("macos", "darwin"), ("os x", "darwin")]

/-- The other spellings of architectures, with the names that they stand for. -/
def Architecture.spellings : Dict String :=
  .ofList [("x86_64", "amd64"), ("x86-64", "amd64"), ("aarch64", "arm64")]

/-- The name that a plain name stands for. -/
def standsFor (spellings : Dict String) (name : String) : String := (spellings.get? name).getD name

/-- No blanks surround the field, and in lower case it is not another spelling
of a name. -/
structure Standard (spellings : Dict String) (field : String) : Prop where
  trimmed_eq : trimmed field = field
  not_spelling : spellings.contains (lowered field) = false

/-- What spellings stand for are plain names, and stand for themselves. -/
def Resolved (spellings : Dict String) : Prop :=
  ∀ spelling name, spellings.get? spelling = some name →
    trimmed name = name ∧ spellings.contains name = false

section Spellings

variable {spellings : Dict String} {field name : String}

theorem standsFor_self (h : spellings.contains name = false) : standsFor spellings name = name := by
  have hnone : spellings.get? name = none := Option.not_isSome_iff_eq_none.1 (Bool.eq_false_iff.1 h)
  rw [standsFor, hnone, Option.getD_none]

/-- **What a word stands for has no blanks around it and is no other spelling.** -/
theorem standsFor_plainName (h : Resolved spellings) (word : String) :
    trimmed (standsFor spellings (plainName word)) = standsFor spellings (plainName word) ∧
      spellings.contains (standsFor spellings (plainName word)) = false := by
  cases hname : spellings.get? (plainName word) with
  | none =>
    have hplain : spellings.contains (plainName word) = false := by
      rw [Dict.contains, hname, Option.isSome_none]
    rw [standsFor_self hplain]
    exact ⟨trimmed_plainName word, hplain⟩
  | some name =>
    rw [standsFor, hname, Option.getD_some]
    exact h _ name hname

theorem standard_of_standsFor (h : Resolved spellings) {word : String}
    (heq : standsFor spellings (plainName word) = lowered field) : Standard spellings field := by
  obtain ⟨htrimmed, hcontains⟩ := standsFor_plainName h word
  rw [heq] at htrimmed hcontains
  exact ⟨trimmed_lowered_iff.1 htrimmed, hcontains⟩

/-- **A field is found by its own word exactly if it is standard.** -/
theorem standsFor_eq_lowered_iff (h : Resolved spellings) :
    standsFor spellings (plainName field) = lowered field ↔ Standard spellings field := by
  constructor
  · intro heq
    exact standard_of_standsFor h heq
  · intro hstandard
    have hplain : plainName field = lowered field := congrArg lowered hstandard.trimmed_eq
    rw [hplain, standsFor_self hstandard.not_spelling]

theorem standard_ofList_iff {entries : List (String × String)} :
    Standard (.ofList entries) field ↔
      trimmed field = field ∧ lowered field ∉ entries.map (·.1) := by
  have hcontains : (Dict.ofList entries).contains (lowered field) = false ↔
      lowered field ∉ entries.map (·.1) := by
    rw [Dict.contains_ofList, decide_eq_false_iff_not]
  rw [← hcontains]
  exact ⟨fun h => ⟨h.trimmed_eq, h.not_spelling⟩, fun h => ⟨h.1, h.2⟩⟩

end Spellings

namespace OperatingSystem

theorem get?_spellings (name : String) :
    spellings.get? name =
      if name = "os x" then some "darwin" else if name = "macos" then some "darwin"
      else if name = "osx" then some "darwin" else none := by
  simp only [spellings, Dict.ofList, List.foldl_cons, List.foldl_nil, Dict.get?_insert]
  rfl

theorem resolved_spellings : Resolved spellings := by
  intro spelling name h
  rw [get?_spellings] at h
  split_ifs at h <;> cases h <;> decide +kernel

theorem name_ofText (word : String) :
    (ofText word).name = standsFor spellings (plainName word) := by
  rw [standsFor, get?_spellings]
  unfold ofText
  generalize plainName word = name
  dsimp only
  split_ifs <;> simp_all [OperatingSystem.name]

end OperatingSystem

namespace Architecture

theorem get?_spellings (name : String) :
    spellings.get? name =
      if name = "aarch64" then some "arm64" else if name = "x86-64" then some "amd64"
      else if name = "x86_64" then some "amd64" else none := by
  simp only [spellings, Dict.ofList, List.foldl_cons, List.foldl_nil, Dict.get?_insert]
  rfl

theorem resolved_spellings : Resolved spellings := by
  intro spelling name h
  rw [get?_spellings] at h
  split_ifs at h <;> cases h <;> decide +kernel

theorem name_ofText (word : String) :
    (ofText word).name = standsFor spellings (plainName word) := by
  rw [standsFor, get?_spellings]
  unfold ofText
  generalize plainName word = name
  dsimp only
  split_ifs <;> simp_all [Architecture.name]

end Architecture

namespace Request

variable {version flavor os arch : String} {minimal newest : Bool}

/-- The request that somebody makes in words. -/
def worded (version flavor os arch : String) (minimal newest : Bool) : Request :=
  { ofText version flavor os arch with minimal, newest }

theorem worded_os : (worded version flavor os arch minimal newest).os = .ofText os := by
  rw [worded, ofText]

theorem worded_arch : (worded version flavor os arch minimal newest).arch = .ofText arch := by
  rw [worded, ofText]

end Request

namespace Tarball

variable {t : Tarball}

theorem requestFor_eq_worded (version : String) :
    t.requestFor version = .worded version t.flavor t.os t.arch t.minimal false := rfl

/-- The tarball spells its platform as the catalog does. -/
def NamesPlatform (t : Tarball) : Prop :=
  Standard OperatingSystem.spellings t.os ∧ (t.arch = "" ∨ Standard Architecture.spellings t.arch)

/-- A tarball that is found by words spells its platform as the catalog does. -/
theorem namesPlatform_of_worded {version flavor os arch : String} {minimal newest : Bool}
    (h : (Request.worded version flavor os arch minimal newest).accepts t = true) :
    t.NamesPlatform := by
  obtain ⟨-, -, hos, harch, -⟩ := Request.accepts_iff.1 h
  rw [Request.worded_os, OperatingSystem.name_ofText] at hos
  rw [Request.worded_arch, Architecture.name_ofText] at harch
  refine ⟨standard_of_standsFor OperatingSystem.resolved_spellings hos.symm, ?_⟩
  exact harch.imp_right fun heq => standard_of_standsFor Architecture.resolved_spellings heq.symm

theorem requestFor_accepts (hversion : trimmed t.version = t.version)
    (hflavor : trimmed t.flavor = t.flavor) (h : t.NamesPlatform) :
    (t.requestFor t.version).accepts t = true := by
  obtain ⟨hos, harch⟩ := h
  refine Request.accepts_iff.2 ⟨.inl hversion.symm, ?_, ?_, ?_, id⟩
  · rw [requestFor_flavor]
    exact congrArg lowered hflavor.symm
  · rw [requestFor_os, OperatingSystem.name_ofText]
    exact ((standsFor_eq_lowered_iff OperatingSystem.resolved_spellings).2 hos).symm
  · rw [requestFor_arch, Architecture.name_ofText]
    exact harch.imp_right fun harch =>
      ((standsFor_eq_lowered_iff Architecture.resolved_spellings).2 harch).symm

/-- **A tarball is found by the request in its own words exactly if it spells
its platform as the catalog does**: no blanks around the operating system or the
architecture, and neither of them under another spelling. A tarball that this
request does not find is found by none. -/
theorem requestFor_accepts_iff (t : Tarball) (hversion : trimmed t.version = t.version)
    (hflavor : trimmed t.flavor = t.flavor) :
    ((t.requestFor t.version).accepts t = true ↔
      (trimmed t.os = t.os ∧ lowered t.os ∉ ["osx", "macos", "os x"]) ∧
        (t.arch = "" ∨ trimmed t.arch = t.arch ∧
          lowered t.arch ∉ ["x86_64", "x86-64", "aarch64"])) ∧
    ((t.requestFor t.version).accepts t = true ↔
      ∃ (version flavor os arch : String) (minimal newest : Bool),
        (Request.worded version flavor os arch minimal newest).accepts t = true) := by
  have hnames : t.NamesPlatform ↔
      (trimmed t.os = t.os ∧ lowered t.os ∉ ["osx", "macos", "os x"]) ∧
        (t.arch = "" ∨ trimmed t.arch = t.arch ∧
          lowered t.arch ∉ ["x86_64", "x86-64", "aarch64"]) :=
    and_congr standard_ofList_iff (or_congr_right standard_ofList_iff)
  rw [← hnames]
  constructor
  · constructor
    · intro h
      exact namesPlatform_of_worded (requestFor_eq_worded t.version ▸ h)
    · exact requestFor_accepts hversion hflavor
  · constructor
    · intro h
      exact ⟨_, _, _, _, _, _, requestFor_eq_worded t.version ▸ h⟩
    · rintro ⟨version, flavor, os, arch, minimal, newest, h⟩
      exact requestFor_accepts hversion hflavor (namesPlatform_of_worded h)

/-- A tarball in capital letters is found by its own words, and one that says
`macOS` by no words at all. -/
theorem requestFor_accepts_iff_macOS :
    let shouted : Tarball :=
      { os := "LINUX", arch := "ARM64", flavor := "MySQL", version := "8.0.36" }
    let spelled : Tarball := { shouted with os := "macOS" }
    (shouted.requestFor shouted.version).accepts shouted = true ∧
      ∀ (version flavor os arch : String) (minimal newest : Bool),
        (Request.worded version flavor os arch minimal newest).accepts spelled = false := by
  intro shouted spelled
  constructor
  · exact (requestFor_accepts_iff shouted (by decide +kernel) (by decide +kernel)).1.2
      (by decide +kernel)
  · intro version flavor os arch minimal newest
    obtain ⟨hown, hany⟩ := requestFor_accepts_iff spelled (by decide +kernel) (by decide +kernel)
    refine Bool.eq_false_iff.2 fun h => ?_
    have hnames := hown.1 (hany.2 ⟨version, flavor, os, arch, minimal, newest, h⟩)
    revert hnames
    decide +kernel

/-- Nothing is wrong with either tarball, but the request in its own words does
not find it: one spells its operating system in another way than the catalog
does, the other one its architecture. -/
theorem requestFor_misses :
    let spelledSystem : Tarball :=
      { name := "mysql-8.0.36-macos14-arm64.tar.gz", checksum := "MD5:1", os := "macOS",
        arch := "arm64", url := "u", flavor := "mysql", shortVersion := "8.0", version := "8.0.36" }
    let spelledArch : Tarball :=
      { spelledSystem with
        name := "mysql-8.0.36-linux-glibc2.17-x86_64.tar.xz", os := "Linux", arch := "x86_64" }
    ∀ t ∈ [spelledSystem, spelledArch], t.issues = [] ∧ trimmed t.version = t.version ∧
      trimmed t.flavor = t.flavor ∧
      (t.requestFor t.version).accepts t = false := by
  decide +kernel

end Tarball

end ReleaseCatalog
