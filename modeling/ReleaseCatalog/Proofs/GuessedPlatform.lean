import ReleaseCatalog.Proofs.GuessedName
import ReleaseCatalog.Proofs.GuessedShortVersion

/-!
# Whom a guess is for

The flavor and the architecture of a request choose the family that a guess is
made from. The default templates have no fields for them, so the name of a guess
is that of a `mysql` release for the one architecture which the template of the
operating system names.

* `FileName.flavor?_server`: the flavor of such a name goes by the series of its
  version alone.
* `resolveGuess_recognized`: what is recognized in the name of a guess, and when
  it is what was asked for.
* `resolveGuess_foreign`: guesses for another flavor and for another architecture.
-/

namespace ReleaseCatalog

open Text

namespace FileName

variable {version : String} {s word : List Char}

/-- What the versions of server releases start with by which names are recognized. -/
def serverSeries : List String := ["5.7", "8", "9"]

/-- The version is of a series that names are recognized by. -/
def OfSeries (version : String) : Prop := ∃ series ∈ serverSeries, series.toList <+: version.toList

instance (version : String) : Decidable (OfSeries version) :=
  inferInstanceAs (Decidable (∃ series ∈ serverSeries, _))

/-- A word that is no longer than a release number is at the front of a text
with one if it is at the front of the number. -/
theorem isSome_after?_release (hv : IsRelease s) (hword : word.length ≤ 5) (t : List Char) :
    (after? word (s ++ t)).isSome = decide (word <+: s) := by
  have hlen := hword.trans (length_of_isRelease hv)
  rw [Bool.eq_iff_iff, isSome_after?_iff, decide_eq_true_iff]
  constructor
  · intro h
    exact List.prefix_of_prefix_length_le h (List.prefix_append s t) hlen
  · intro h
    exact h.trans (List.prefix_append s t)

/-- A word that starts with a letter is not at the front of a text with a
release number. -/
theorem isSome_after?_foreign (hv : IsRelease s) (hword : foreign word = true) (t : List Char) :
    (after? word (s ++ t)).isSome = false := by
  have hlen := length_of_isRelease hv
  cases s with
  | nil => exact nomatch hlen
  | cons c rest =>
    rw [List.cons_append, after?_of_foreign hword (mem_isRelease hv List.mem_cons_self),
      Option.isSome_none]

/-- What goes on behind `mysql-` in the starts of the other flavors. -/
def otherSeries : List String := ["cluster-8", "cluster-9", "shell-"]

/-- A start that a name with a release number has is one of a server release of
the series of that number. -/
theorem ofSeries_of_start {start : String × String} (hv : IsRelease version.toList) (tail : String)
    (hstart : start ∈ flavorStarts)
    (h : (after? start.1.toList ("mysql-" ++ version ++ tail).toList).isSome = true) :
    start.2 = "mysql" ∧ OfSeries version := by
  have hseries : ∀ series ∈ serverSeries,
      (after? series.toList (version.toList ++ tail.toList)).isSome = true → OfSeries version := by
    intro series hmem hafter
    have hlen : ∀ series ∈ serverSeries, series.toList.length ≤ 5 := by decide
    rw [isSome_after?_release hv (hlen series hmem)] at hafter
    exact ⟨series, hmem, of_decide_eq_true hafter⟩
  have hother : ∀ other ∈ otherSeries,
      (after? other.toList (version.toList ++ tail.toList)).isSome ≠ true := by
    intro other hmem
    have hforeign : ∀ other ∈ otherSeries, foreign other.toList = true := by decide +kernel
    rw [isSome_after?_foreign hv (hforeign other hmem)]
    decide
  rw [toList_guess] at h
  simp only [flavorStarts, List.mem_cons, List.not_mem_nil, or_false] at hstart
  rcases hstart with rfl | rfl | rfl | rfl | rfl | rfl | rfl
  · exact ⟨rfl, hseries "5.7" (by decide) h⟩
  · exact ⟨rfl, hseries "8" (by decide) h⟩
  · exact ⟨rfl, hseries "9" (by decide) h⟩
  · exact absurd h (hother "cluster-8" (by decide))
  · exact absurd h (hother "cluster-9" (by decide))
  · exact absurd h (hother "shell-" (by decide))
  · exact nomatch h

/-- A name with a release number of one of the series has the start for that. -/
theorem start_of_ofSeries (h : OfSeries version) (tail : String) :
    ∃ start ∈ flavorStarts,
      (after? start.1.toList ("mysql-" ++ version ++ tail).toList).isSome = true := by
  obtain ⟨series, hmem, hfront⟩ := h
  have hstarts : ∀ series ∈ serverSeries, ("mysql-" ++ series, "mysql") ∈ flavorStarts := by decide
  refine ⟨("mysql-" ++ series, "mysql"), hstarts series hmem, isSome_after?_iff.2 ?_⟩
  rw [toList_guess, String.toList_append]
  exact (List.prefix_append_right_inj _).2 (hfront.trans (List.prefix_append _ _))

/-- **The flavor of a name with a release number behind `mysql-` goes by the
series of that number**: the other flavors are told by words with letters. -/
theorem flavor?_server (hv : IsRelease version.toList) (tail : String) :
    flavor? ("mysql-" ++ version ++ tail) = if OfSeries version then some "mysql" else none := by
  unfold flavor?
  split
  · rename_i hseries
    obtain ⟨start, hstart, hafter⟩ := start_of_ofSeries hseries tail
    cases hfound : flavorStarts.find? fun start =>
        (after? start.1.toList ("mysql-" ++ version ++ tail).toList).isSome with
    | none => exact absurd hafter (List.find?_eq_none.1 hfound start hstart)
    | some found =>
      have hbegins := List.find?_some hfound
      have hserver := ofSeries_of_start hv tail (List.mem_of_find?_eq_some hfound) hbegins
      rw [Option.map_some, hserver.1]
  · rename_i hseries
    rw [List.find?_eq_none.2 fun start hstart hafter =>
      hseries (ofSeries_of_start hv tail hstart hafter).2]
    rfl

end FileName

namespace Policy

/-- The architecture that the default rule for an operating system names its
files for. -/
def defaultArch (os : String) : Architecture := if os = "darwin" then .arm64 else .amd64

theorem arch?_defaultEnd (os short : String) :
    FileName.arch? (defaultEnd os short) = some (defaultArch os) := by
  unfold defaultEnd defaultArch
  split_ifs <;> decide +kernel

end Policy

open FileName

variable {tarballs : List Tarball} {r : Request} {p : Policy} {g t : Tarball}

/-- Each short version that may be guessed for by default is one of two numbers. -/
theorem Policy.allowedVersions_default :
    ∀ short ∈ default.allowedVersions, ∃ major minor, (Version.mk [major, minor]).text = short := by
  have hall : ∀ short ∈ default.allowedVersions, (Version.ofText short).segments.length = 2 ∧
      (Version.ofText short).text = short := by decide +kernel
  intro short hshort
  obtain ⟨hlen, htext⟩ := hall short hshort
  obtain ⟨major, minor, hsegments⟩ := List.length_eq_two.1 hlen
  refine ⟨major, minor, ?_⟩
  rw [← hsegments]
  exact htext

/-- What a guess under the default rules is named. -/
theorem resolveGuess_default_name (h : (resolveGuess tarballs r .default).result = .ok g) :
    (r.os.name = "linux" ∨ r.os.name = "darwin") ∧ IsRelease g.version.toList ∧
      g.name = "mysql-" ++ g.version ++ Policy.defaultEnd r.os.name g.shortVersion := by
  obtain ⟨-, first, -, newest, -, hnext⟩ := resolveGuess_ok h
  have hname := Policy.nextRelease_name hnext
  rw [← Policy.nextRelease_shortVersion hnext, Policy.defaultName_eq] at hname
  obtain ⟨major, minor, patch, rule, name, -, hrule, -, rfl⟩ := Policy.nextRelease_ok hnext
  refine ⟨(Policy.ruleFor_default_iff.1 hrule).imp And.left And.left, ?_, hname⟩
  exact isRelease_text major minor (patch + 1)

/-- Where the tarballs have the short versions of their versions, the version of a
guess under the default rules continues the short version that was asked about. -/
theorem shortVersion_prefix_guess (h : (resolveGuess tarballs r .default).result = .ok g)
    (hshorts : ∀ t ∈ tarballs, t.ShortVersioned) : r.shortVersion.toList <+: g.version.toList := by
  obtain ⟨hallowed, first, -, newest, hnewest, hnext⟩ := resolveGuess_ok h
  obtain ⟨major, minor, htext⟩ := Policy.allowedVersions_default r.shortVersion hallowed
  have hprefix := isPrefix_of_mem_family hnewest.1 (hshorts newest (List.mem_filter.1 hnewest.1).1)
  rw [← htext, Version.ofText_text (List.cons_ne_nil _ _)] at hprefix
  obtain ⟨major', minor', patch, -, -, hnumbers, -, -, rfl⟩ := Policy.nextRelease_ok hnext
  -- the first two numbers of the newest version are those of the short version
  have htwo : [major, minor] <+: [major', minor', patch] :=
    List.prefix_of_prefix_length_le hprefix (Version.triple?_eq_some_iff.1 hnumbers) (by simp)
  obtain ⟨rfl, rfl⟩ : major = major' ∧ minor = minor' := by simpa using htwo
  rw [← htext]
  show _ <+: (Version.mk [major, minor, patch + 1]).text.toList
  rw [toList_text_three]
  exact List.prefix_append _ _

/-- **What is recognized in the name of a guess under the default rules.** The
flavor is `mysql` or none, and goes by the series of the version; the
architecture goes by the operating system. Both are what was asked for exactly
where that is what was asked for. -/
theorem resolveGuess_recognized (h : (resolveGuess tarballs r .default).result = .ok g) :
    (r.os.name = "linux" ∨ r.os.name = "darwin") ∧
    (flavor? g.name = some r.flavor ↔ r.flavor = "mysql" ∧ OfSeries g.version) ∧
    (arch? g.name = some r.arch ↔ r.arch = Policy.defaultArch r.os.name) ∧
    ((∀ t ∈ tarballs, t.ShortVersioned) → OfSeries g.version) := by
  obtain ⟨hos, hv, hname⟩ := resolveGuess_default_name h
  have hflavor := flavor?_server hv (Policy.defaultEnd r.os.name g.shortVersion)
  have harch := (arch?_guess hv).trans (Policy.arch?_defaultEnd r.os.name g.shortVersion)
  rw [← hname] at hflavor harch
  refine ⟨hos, ?_, ?_, ?_⟩
  · rw [hflavor]
    split
    · rename_i hseries
      simp [hseries, eq_comm]
    · rename_i hseries
      simp [hseries]
  · rw [harch, Option.some_inj, eq_comm]
  · intro hshorts
    have hseries : ∀ short ∈ Policy.default.allowedVersions, OfSeries short := by decide +kernel
    obtain ⟨series, hmem, hfront⟩ := hseries r.shortVersion (resolveGuess_ok h).1
    exact ⟨series, hmem, hfront.trans (shortVersion_prefix_guess h hshorts)⟩

/-- For `mysql` on `amd64` the name of the guess tells both, also where the
family has a version of two numbers. -/
theorem resolveGuess_recognized_mysql :
    let patchOf (version shortVersion : String) : Tarball :=
      { name := version, os := "Linux", arch := "amd64", flavor := "MySQL", shortVersion, version }
    let tarballs := [patchOf "8.4.1" "8.4", patchOf "8.4" "8", patchOf "8.4.3" "8.4"]
    let r : Request := .ofText "8.4.1" "MySQL" "Linux" "x86_64"
    ∃ g, (resolveGuess tarballs r .default).result = .ok g ∧ flavor? g.name = some r.flavor ∧
      arch? g.name = some r.arch := by
  intro patchOf tarballs r
  have hguess : (resolveGuess tarballs r .default).result.map (·.version) = .ok "8.4.4" := by
    decide +kernel
  obtain ⟨g, hg, -⟩ := map_ok_iff.1 hguess
  obtain ⟨-, hflavor, harch, hseries⟩ := resolveGuess_recognized hg
  have hshorts : ∀ t ∈ tarballs, t.shortVersion = Version.shortText t.version := by decide +kernel
  have hasked : r.flavor = "mysql" := by decide +kernel
  exact ⟨g, hg, hflavor.2 ⟨hasked, hseries hshorts⟩, harch.2 (by decide +kernel)⟩

/-- The guess for another flavor has the name of a `mysql` release, and the
guess for `arm64` on Linux has that of a release for `amd64`. -/
theorem resolveGuess_foreign :
    let ours : Tarball :=
      { name := "mysql-8.0.36-linux-glibc2.17-aarch64.tar.xz", checksum := "MD5:1", os := "linux",
        arch := "arm64", url := "u", flavor := "mysql", shortVersion := "8.0", version := "8.0.36" }
    let theirs : Tarball :=
      { ours with
        name := "Percona-Server-8.0.36-28-Linux.x86_64.glibc2.35.tar.gz"
        arch := "amd64", flavor := "percona" }
    let tarballs := [ours, theirs]
    (resolveGuess tarballs (.ofText "8.0" "percona" "linux" "amd64") .default).result.map
        (fun g => (g.flavor, flavor? g.name, arch? g.name)) =
          .ok ("percona", some "mysql", some .amd64) ∧
      (resolveGuess tarballs (.ofText "8.0" "mysql" "linux" "arm64") .default).result.map
        (fun g => (g.flavor, flavor? g.name, arch? g.name)) =
          .ok ("mysql", some "mysql", some .amd64) := by
  decide +kernel

end ReleaseCatalog
