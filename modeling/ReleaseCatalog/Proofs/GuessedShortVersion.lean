import ReleaseCatalog.Proofs.FileName
import ReleaseCatalog.Proofs.NextRelease
import ReleaseCatalog.Proofs.VersionReading

/-!
# The short version of a guess

Whether a guess may be made is asked for the short version of the request, but
the guess has the short version of the first member of the family. Members come
into the family by their short version or by their version, and those that come
by their version have another short version.

* `Version.shortText_isPrefix`: a version continues its short version.
* `resolveGuess_shortVersion_iff`: when a guess has the short version that was
  asked about, and when another.
* `resolveGuess_not_allowed`: a valid catalog with a guess for a short version
  that is not allowed.
-/

namespace ReleaseCatalog

open Text

variable {tarballs : List Tarball} {r : Request} {p : Policy} {g t : Tarball}

/-- **A version continues its short version.** -/
theorem Version.shortText_isPrefix (s : String) : (ofText (shortText s)).IsPrefix (ofText s) := by
  by_cases hdot : '.' ∈ s.toList
  · rw [ofText_shortText hdot]
    exact List.dropLast_prefix _
  · rw [shortText_of_not_mem hdot]
    exact .refl _

/-- The tarball has the short version of its version. -/
def Tarball.ShortVersioned (t : Tarball) : Prop := t.shortVersion = Version.shortText t.version

/-- In a family of such tarballs every version continues the short version that
the family is for. -/
theorem isPrefix_of_mem_family (ht : t ∈ r.family.select tarballs) (hshort : t.ShortVersioned) :
    (Version.ofText r.shortVersion).IsPrefix t.parsedVersion := by
  obtain ⟨-, haccepts⟩ := List.mem_filter.1 ht
  rcases (Request.accepts_family_iff.1 haccepts).1 with hversion | hversion
  · rw [← hversion]
    exact .refl _
  · rw [← hversion, hshort]
    exact Version.shortText_isPrefix t.version

/-- A member with another short version than the family is for has that as its
version. -/
theorem version_of_mem_family (ht : t ∈ r.family.select tarballs)
    (hne : t.shortVersion ≠ r.shortVersion) :
    t.version = r.shortVersion := by
  obtain ⟨-, haccepts⟩ := List.mem_filter.1 ht
  exact (Request.accepts_family_iff.1 haccepts).1.resolve_right hne

/-- What a guess has its short version and its numbers from. -/
theorem resolveGuess_first_newest (h : (resolveGuess tarballs r p).result = .ok g) :
    ∃ first rest, r.family.select tarballs = first :: rest ∧ g.shortVersion = first.shortVersion ∧
      3 ≤ (rest.foldl newer first).parsedVersion.segments.length := by
  obtain ⟨-, first, rest, hlist, hnext⟩ := resolveGuess_ok_iff.1 h
  obtain ⟨major, minor, patch, -, -, hnumbers, -⟩ := Policy.nextRelease_ok hnext
  refine ⟨first, rest, hlist, Policy.nextRelease_shortVersion hnext, ?_⟩
  rw [← Version.triple?_isSome_iff, hnumbers]
  rfl

/-- **A guess has another short version than the request only if that one is the
version of a member.** With fewer than three numbers it is not that member which
the guess follows, but a newer one. -/
theorem exists_newer_of_shortVersion_ne (h : (resolveGuess tarballs r p).result = .ok g)
    (hne : g.shortVersion ≠ r.shortVersion) :
    3 ≤ (Version.ofText r.shortVersion).segments.length ∨
      ∃ t ∈ r.family.select tarballs,
        (Version.ofText r.shortVersion).precedes t.parsedVersion = true := by
  obtain ⟨first, rest, hlist, hshort, hlen⟩ := resolveGuess_first_newest h
  have hfirst : first ∈ r.family.select tarballs := hlist ▸ List.mem_cons_self
  have hversion : first.version = r.shortVersion := version_of_mem_family hfirst (hshort ▸ hne)
  have hparsed : first.parsedVersion = Version.ofText r.shortVersion :=
    congrArg Version.ofText hversion
  rw [← hparsed]
  rcases foldl_newer_cases first rest with hstays | hlater
  · rw [hstays] at hlen
    exact .inl hlen
  · refine .inr ⟨_, ?_, hlater⟩
    rw [hlist]
    exact (foldl_newer_unsurpassed first rest).1

/-- **A guess has the short version that was asked about, except where the first
member of the family came into it by its version and has another short
version.** Then that short version has a patch number of its own, or a member of
the family is newer than it says. Neither can be for a short version of one or
two parts, if all tarballs have the short versions of their versions. -/
theorem resolveGuess_shortVersion_iff (h : (resolveGuess tarballs r p).result = .ok g) :
    r.shortVersion ∈ p.allowedVersions ∧
    (g.shortVersion ≠ r.shortVersion ↔
      ∃ first ∈ (r.family.select tarballs).head?,
        first.version = r.shortVersion ∧ first.shortVersion ≠ r.shortVersion) ∧
    (g.shortVersion ≠ r.shortVersion →
      3 ≤ (Version.ofText r.shortVersion).segments.length ∨
        ∃ t ∈ r.family.select tarballs,
          (Version.ofText r.shortVersion).precedes t.parsedVersion = true) ∧
    ((∀ t ∈ tarballs, t.ShortVersioned) → (Version.ofText r.shortVersion).segments.length ≤ 2 →
      g.shortVersion = r.shortVersion) := by
  obtain ⟨first, rest, hlist, hshort, -⟩ := resolveGuess_first_newest h
  refine ⟨(resolveGuess_ok h).1, ?_, exists_newer_of_shortVersion_ne h, ?_⟩
  · rw [hlist, hshort]
    constructor
    · intro hne
      have hfirst : first ∈ r.family.select tarballs := hlist ▸ List.mem_cons_self
      exact ⟨first, rfl, version_of_mem_family hfirst hne, hne⟩
    · rintro ⟨first', hfirst', -, hne⟩
      obtain rfl := Option.some.inj hfirst'
      exact hne
  · intro hshorts hlen
    by_contra hne
    rcases exists_newer_of_shortVersion_ne h hne with hthree | ⟨t, ht, hnewer⟩
    · omega
    · -- no member is newer, since all versions continue the short version
      have hprefix := isPrefix_of_mem_family ht (hshorts t (List.mem_filter.1 ht).1)
      rw [Version.not_precedes_of_prefix hprefix] at hnewer
      exact nomatch hnewer

/-- A request for a patch release, to a catalog that lists the short version as
a version, too: it comes behind the first patch release, and the guess has the
short version that was asked about. -/
theorem resolveGuess_shortVersion_iff_patch :
    let patchOf (version shortVersion : String) : Tarball :=
      { name := version, os := "Linux", flavor := "MySQL", shortVersion, version }
    let tarballs := [patchOf "8.4.1" "8.4", patchOf "8.4" "8", patchOf "8.4.3" "8.4"]
    let r : Request := ⟨"8.4.1", "mysql", .linux, .amd64, false, false⟩
    ∃ g, (resolveGuess tarballs r .default).result = .ok g ∧ g.version = "8.4.4" ∧
      g.shortVersion = "8.4" ∧ g.shortVersion ∈ Policy.default.allowedVersions := by
  intro patchOf tarballs r
  have hguess : (resolveGuess tarballs r .default).result.map (·.version) = .ok "8.4.4" := by
    decide +kernel
  obtain ⟨g, hg, hversion⟩ := map_ok_iff.1 hguess
  obtain ⟨hallowed, -, -, hsame⟩ := resolveGuess_shortVersion_iff hg
  have hshort : r.shortVersion = "8.4" := by decide +kernel
  have hshorts : ∀ t ∈ tarballs, t.shortVersion = Version.shortText t.version := by decide +kernel
  have hasked : g.shortVersion = r.shortVersion := hsame hshorts (by decide +kernel)
  exact ⟨g, hg, hversion, hasked.trans hshort, hasked ▸ hallowed⟩

/-- Of the short versions only `8.0.36` may be guessed for, and the guess is one
for `8.0`: the release `8.0.36` is listed before the one that has it as its
short version. -/
theorem resolveGuess_not_allowed :
    let release : Tarball :=
      { name := "mysql-8.0.36.tar.gz", checksum := "MD5:1", os := "linux",
        arch := "amd64", url := "u", flavor := "mysql", shortVersion := "8.0", version := "8.0.36" }
    let build : Tarball :=
      { release with
        name := "mysql-8.0.36.1.tar.gz", shortVersion := "8.0.36", version := "8.0.36.1" }
    let c : Catalog := ⟨"0.5.1", "", [release, build]⟩
    let p : Policy := { Policy.default with allowedVersions := ["8.0.36"] }
    let r : Request := .ofText "8.0.36.1" "mysql" "linux" "amd64"
    let name := "mysql-8.0.37-linux-glibc2.17-x86_64-minimal.tar.xz"
    let guess : Tarball :=
      { name, os := "linux", flavor := "mysql", minimal := true, shortVersion := "8.0",
        version := "8.0.37"
        notes := guessedNote, url := "https://dev.mysql.com/get/Downloads/MySQL-8.0/" ++ name }
    c.validate = .ok () ∧ r.shortVersion = "8.0.36" ∧
      (resolveGuess c.tarballs r p).result = .ok guess ∧
      guess.shortVersion ∉ p.allowedVersions := by
  decide +kernel

end ReleaseCatalog
