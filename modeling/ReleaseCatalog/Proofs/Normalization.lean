import ReleaseCatalog.Proofs.Text.LowerTwice
import ReleaseCatalog.Request

/-!
# Requests in words of their own

The words of a request are brought into a normal form: blanks around them are left
out, all but the version are brought into lower case, and the spellings of a platform
become one value. A request made from the words of another one is the same request.

* `OperatingSystem.ofText_eq_other_iff`, `Architecture.ofText_eq_other_iff`:
  which words name a platform that is not known, and how it is called then.
* `OperatingSystem.ofText_name_ofText`, `Architecture.ofText_name_ofText`: the
  name of what a word names names the same.
* `Request.ofText_again`: all of it for requests.
-/

namespace ReleaseCatalog

open Text

variable {s name : String}

section Platform

variable {Platform : Type} {first second : Platform} {other : String → Platform}
  {isFirst isSecond : Prop} [Decidable isFirst] [Decidable isSecond] {known : List String}

/-- Of two platforms that are known and all others by their names, a word names
another one exactly if it is no word for the two. -/
theorem platform_eq_other_iff (hfirst : ∀ name, first ≠ other name)
    (hsecond : ∀ name, second ≠ other name)
    (hinjective : ∀ name name', other name = other name' → name = name')
    (hknown : s ∈ known ↔ isFirst ∨ isSecond) :
    (if isFirst then first else if isSecond then second else other s) = other name ↔
      s = name ∧ name ∉ known := by
  have hmem : s ∈ known → ¬ (s = name ∧ name ∉ known) := by
    rintro hs ⟨rfl, hnot⟩
    exact hnot hs
  split_ifs with h h'
  · exact iff_of_false (hfirst name) (hmem (hknown.2 (.inl h)))
  · exact iff_of_false (hsecond name) (hmem (hknown.2 (.inr h')))
  · constructor
    · intro hname
      obtain rfl := hinjective s name hname
      exact ⟨rfl, fun hs => (hknown.1 hs).elim h h'⟩
    · rintro ⟨rfl, -⟩
      rfl

end Platform

/-- What is a plain name of anything is its own. -/
theorem plainName_eq_self (h : plainName s = name) : plainName name = name := by
  rw [← h]
  exact plainName_plainName s

namespace OperatingSystem

/-- The names of the operating systems that are known, and their other spellings. -/
def knownNames : List String := ["linux", "darwin", "osx", "macos", "os x"]

/-- **A word names a system that is not known exactly if it is, as a plain name,
no spelling of a known one.** -/
theorem ofText_eq_other_iff : ofText s = other name ↔ plainName s = name ∧ name ∉ knownNames := by
  have hknown : plainName s ∈ knownNames ↔
      plainName s = "linux" ∨ plainName s ∈ ["darwin", "osx", "macos", "os x"] :=
    List.mem_cons
  unfold ofText
  exact platform_eq_other_iff (fun _ => nofun) (fun _ => nofun) (fun _ _ => other.inj) hknown

theorem ofText_name_linux : ofText linux.name = linux := by decide +kernel

theorem ofText_name_darwin : ofText darwin.name = darwin := by decide +kernel

/-- **The name of the system that a word names is a word for it.** -/
theorem ofText_name_ofText (s : String) : ofText (ofText s).name = ofText s := by
  cases hs : ofText s with
  | linux => exact ofText_name_linux
  | darwin => exact ofText_name_darwin
  | other name =>
    obtain ⟨hname, hnot⟩ := ofText_eq_other_iff.1 hs
    exact ofText_eq_other_iff.2 ⟨plainName_eq_self hname, hnot⟩

end OperatingSystem

namespace Architecture

/-- The names of the architectures that are known, and their other spellings. -/
def knownNames : List String := ["amd64", "x86_64", "x86-64", "arm64", "aarch64"]

/-- **A word names an architecture that is not known exactly if it is, as a
plain name, no spelling of a known one.** -/
theorem ofText_eq_other_iff : ofText s = other name ↔ plainName s = name ∧ name ∉ knownNames := by
  have hknown : plainName s ∈ knownNames ↔
      plainName s ∈ ["amd64", "x86_64", "x86-64"] ∨ plainName s ∈ ["arm64", "aarch64"] :=
    List.mem_append (s := ["amd64", "x86_64", "x86-64"])
  unfold ofText
  exact platform_eq_other_iff (fun _ => nofun) (fun _ => nofun) (fun _ _ => other.inj) hknown

theorem ofText_name_amd64 : ofText amd64.name = amd64 := by decide +kernel

theorem ofText_name_arm64 : ofText arm64.name = arm64 := by decide +kernel

/-- **The name of the architecture that a word names is a word for it.** -/
theorem ofText_name_ofText (s : String) : ofText (ofText s).name = ofText s := by
  cases hs : ofText s with
  | amd64 => exact ofText_name_amd64
  | arm64 => exact ofText_name_arm64
  | other name =>
    obtain ⟨hname, hnot⟩ := ofText_eq_other_iff.1 hs
    exact ofText_eq_other_iff.2 ⟨plainName_eq_self hname, hnot⟩

end Architecture

namespace Request

variable {version flavor os arch : String}

@[simp] theorem ofText_version : (ofText version flavor os arch).version = trimmed version := by
  dsimp only [ofText]

@[simp] theorem ofText_flavor : (ofText version flavor os arch).flavor = plainName flavor := by
  dsimp only [ofText]

@[simp] theorem ofText_os : (ofText version flavor os arch).os = .ofText os := by
  dsimp only [ofText]

@[simp] theorem ofText_arch : (ofText version flavor os arch).arch = .ofText arch := by
  dsimp only [ofText]

/-- Requests are made from words of their own if these come to the same as other
words do. -/
theorem ofText_congr {version' flavor' os' arch' : String}
    (hversion : trimmed version = trimmed version') (hflavor : plainName flavor = plainName flavor')
    (hos : OperatingSystem.ofText os = .ofText os')
    (harch : Architecture.ofText arch = .ofText arch') :
    ofText version flavor os arch = ofText version' flavor' os' arch' := by
  unfold ofText
  rw [hversion, hflavor, hos, harch]

/-- **A request made from its own words is the same request.**

The words of a request are its version, its flavor, and the names of its
operating system and its architecture. The names of the known platforms are read
as these. What is read as a platform that is not known has a plain name: it is
the word in lower case without blanks around it, has no blanks around it itself,
and is neither the name of a known platform nor another spelling of one. -/
theorem ofText_again (version flavor os arch : String) :
    (OperatingSystem.ofText OperatingSystem.linux.name = .linux ∧
      OperatingSystem.ofText OperatingSystem.darwin.name = .darwin ∧
      Architecture.ofText Architecture.amd64.name = .amd64 ∧
      Architecture.ofText Architecture.arm64.name = .arm64) ∧
    let r := ofText version flavor os arch
    ofText r.version r.flavor r.os.name r.arch.name = r ∧
    (∀ name, r.os = .other name →
      name = plainName os ∧ trimmed name = name ∧ lowered name = name ∧
      name ∉ OperatingSystem.knownNames) ∧
    ∀ name, r.arch = .other name →
      name = plainName arch ∧ trimmed name = name ∧ lowered name = name ∧
      name ∉ Architecture.knownNames := by
  refine ⟨⟨OperatingSystem.ofText_name_linux, OperatingSystem.ofText_name_darwin,
    Architecture.ofText_name_amd64, Architecture.ofText_name_arm64⟩, ?_⟩
  intro r
  refine ⟨?_, ?_, ?_⟩
  · simp only [r, ofText_version, ofText_flavor, ofText_os, ofText_arch]
    exact ofText_congr (trimmed_trimmed version) (plainName_plainName flavor)
      (OperatingSystem.ofText_name_ofText os) (Architecture.ofText_name_ofText arch)
  · intro name hname
    simp only [r, ofText_os] at hname
    obtain ⟨rfl, hnot⟩ := OperatingSystem.ofText_eq_other_iff.1 hname
    exact ⟨rfl, trimmed_plainName os, lowered_plainName os, hnot⟩
  · intro name hname
    simp only [r, ofText_arch] at hname
    obtain ⟨rfl, hnot⟩ := Architecture.ofText_eq_other_iff.1 hname
    exact ⟨rfl, trimmed_plainName arch, lowered_plainName arch, hnot⟩

/-- A system with a sigma at the end of a word and one within a word, an architecture
that begins with a dotted capital I, and blanks of several kinds around both. -/
theorem ofText_again_sigma :
    let r := ofText "\u3000 8.0.36\t" "MySQL " "\u00A0ΟΣ ΣΟΛΑΡΙΣ\u2003" " İA-64\n"
    r.os = .other "ος σολαρις" ∧ r.arch = .other "i\u0307a-64" ∧
      ofText r.version r.flavor r.os.name r.arch.name = r ∧
      trimmed "ος σολαρις" = "ος σολαρις" ∧ "i\u0307a-64" ∉ Architecture.knownNames := by
  intro r
  have hos : r.os = .other "ος σολαρις" := by decide +kernel
  have harch : r.arch = .other "i\u0307a-64" := by decide +kernel
  obtain ⟨-, hagain, hother, hother'⟩ :=
    ofText_again "\u3000 8.0.36\t" "MySQL " "\u00A0ΟΣ ΣΟΛΑΡΙΣ\u2003" " İA-64\n"
  obtain ⟨-, htrimmed, -, -⟩ := hother _ hos
  obtain ⟨-, -, -, hnot⟩ := hother' _ harch
  exact ⟨hos, harch, hagain, htrimmed, hnot⟩

end Request

end ReleaseCatalog
