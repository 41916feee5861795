import ReleaseCatalog.Proofs.Addition
import ReleaseCatalog.Proofs.NextRelease

/-!
# Whether a guess is new

Under the default rules the name of a guess says the version, the operating
system and, by its extension, the short version, but neither the flavor nor the
architecture that were asked for.

* `Policy.nextRelease_name`: the name of a guess under the default rules.
* `Catalog.add_guess_ok_iff`: a guess can be added exactly if no tarball has its name
  and none outside its family has its build; inside the family none has its version.
* `Catalog.guess_repeats_name`: the guess for one architecture has the name of a
  release for another.
-/

namespace ReleaseCatalog

namespace Policy

variable {os : OperatingSystem} {rule : PlatformRule} {version short : String} {g : Tarball}
  {v : Version}

/-- A computed field is filled with what was computed, whatever else the rule says. -/
theorem filled_computed {k value : String}
    (h : (computedFields rule version short).get? k = some value) :
    (Template.Part.field k).filled
      (rule.templateData.override (computedFields rule version short)) = value.toList := by
  rw [Template.Part.filled, Dict.get?_override, h]
  rfl

theorem get?_computedFields (rule : PlatformRule) (version short k : String) :
    (computedFields rule version short).get? k =
      if k = "Minimal" then some (if rule.forceMinimal then "-minimal" else "")
      else if k = "Ext" then some (rule.extensionFor short)
      else if k = "Version" then some version
      else none := by
  simp only [computedFields, Dict.ofList, List.foldl_cons, List.foldl_nil, Dict.get?_insert]
  rfl

theorem get?_default_platforms (name : String) :
    default.platforms.get? name =
      if name = "darwin" then some darwinRule
        else if name = "linux" then some linuxRule else none := by
  simp only [default, Dict.ofList, List.foldl_cons, List.foldl_nil, Dict.get?_insert]
  rfl

/-- **Two operating systems have a default rule.** -/
theorem ruleFor_default_iff :
    default.ruleFor os = .ok rule ↔
      os.name = "linux" ∧ rule = linuxRule ∨ os.name = "darwin" ∧ rule = darwinRule := by
  unfold ruleFor
  rw [get?_default_platforms]
  by_cases hd : os.name = "darwin"
  · simp [hd, eq_comm]
  · by_cases hl : os.name = "linux" <;> simp [hd, hl, eq_comm]

/-- The file name of a release for an operating system under the default rules. -/
def defaultName (os version short : String) : String :=
  if os = "darwin" then "mysql-" ++ version ++ "-macos14-arm64.tar.gz"
  else "mysql-" ++ version ++ "-linux-glibc2.17-x86_64-minimal." ++
    if short = "8.0" then "tar.xz" else "tar.gz"

theorem parts_linuxRule :
    Template.parts linuxRule.nameTemplate =
      "mysql-".toList.map .char ++ .field "Version" ::
        ("-linux-glibc2.17-x86_64".toList.map .char ++
        [.field "Minimal", .char '.', .field "Ext"]) := by
  decide +kernel

theorem parts_darwinRule :
    Template.parts darwinRule.nameTemplate =
      "mysql-".toList.map .char ++ .field "Version" ::
        ("-macos14-arm64.".toList.map .char ++ [.field "Ext"]) := by
  decide +kernel

/-- The default templates use computed fields alone. -/
theorem fields_default (h : rule = linuxRule ∨ rule = darwinRule) :
    ∀ f ∈ Template.fields rule.nameTemplate, f ∈ ["Version", "Ext", "Minimal"] := by
  rcases h with rfl | rfl <;> decide +kernel

theorem extensionFor_linuxRule (short : String) :
    linuxRule.extensionFor short = if short = "8.0" then "tar.xz" else "tar.gz" := by
  simp only [PlatformRule.extensionFor, linuxRule, Dict.ofList, List.foldl_cons, List.foldl_nil,
    Dict.get?_insert]
  split <;> rfl

/-- The default templates can be filled. -/
theorem fill_default (name version short : String) (h : rule = linuxRule ∨ rule = darwinRule) :
    let data := rule.templateData.override (computedFields rule version short)
    Template.fill name rule.nameTemplate data =
      .ok (String.ofList ((Template.parts rule.nameTemplate).flatMap (·.filled data))) := by
  refine Template.fill_ok fun f hf => ?_
  rw [Dict.contains_override, contains_computedFields,
    decide_eq_true (fields_default h f hf), Bool.true_or]

/-- **The name of a guess under the default rules.** -/
theorem nextRelease_name {flavor : String}
    (h : (default.nextRelease v short flavor os).result = .ok g) :
    g.name = defaultName os.name g.version short := by
  obtain ⟨major, minor, patch, rule, name, -, hrule, hname, rfl⟩ := nextRelease_ok h
  have hdefault := ruleFor_default_iff.1 hrule
  rw [fill_default _ _ _ (hdefault.imp And.right And.right)] at hname
  obtain rfl := Except.ok.inj hname
  have hversion :=
    filled_computed (get?_computedFields rule (successorText major minor patch) short "Version")
  have hext :=
    filled_computed (get?_computedFields rule (successorText major minor patch) short "Ext")
  have hminimal :=
    filled_computed (get?_computedFields rule (successorText major minor patch) short "Minimal")
  apply String.toList_injective
  show (String.ofList _).toList =
      (defaultName os.name (successorText major minor patch) short).toList
  rw [String.toList_ofList]
  rcases hdefault with ⟨hos, rfl⟩ | ⟨hos, rfl⟩
  · rw [parts_linuxRule, hos, List.flatMap_append, List.flatMap_cons, List.flatMap_append,
      Template.flatMap_filled_char, Template.flatMap_filled_char, List.flatMap_cons,
      List.flatMap_cons, List.flatMap_singleton, hversion, hext, hminimal, extensionFor_linuxRule]
    simp [Template.Part.filled, defaultName, linuxRule]
  · rw [parts_darwinRule, hos, List.flatMap_append, List.flatMap_cons, List.flatMap_append,
      Template.flatMap_filled_char, Template.flatMap_filled_char, List.flatMap_singleton,
      hversion, hext]
    simp [defaultName, darwinRule, PlatformRule.extensionFor, Dict.empty, Dict.get?]

end Policy

namespace Catalog

variable {c : Catalog} {r : Request} {g : Tarball}

/-- **Under the default rules a guess can be added exactly if no tarball has its
name and none outside the family has its build.** No member of the family has
its version. Its name says neither the flavor nor the architecture of the
request, so it may be that of a release for another one. -/
theorem add_guess_ok_iff (c : Catalog) (r : Request) (hu : checkUnique c.tarballs = .ok ())
    (hp : Succeedable (r.family.select c.tarballs))
    (h : (resolveGuess c.tarballs r .default).result = .ok g) :
    g.name = Policy.defaultName r.os.name g.version g.shortVersion ∧
      (∀ t ∈ r.family.select c.tarballs, t.version ≠ g.version) ∧
      ((∃ c', (c.add g).result = .ok c') ↔
        (∀ t ∈ c.tarballs, t.name ≠ g.name) ∧
          ∀ t ∈ c.tarballs, r.family.accepts t = false → t.build ≠ g.build) := by
  obtain ⟨-, first, -, newest, -, hnext⟩ := resolveGuess_ok h
  have hname : g.name = Policy.defaultName r.os.name g.version g.shortVersion := by
    rw [Policy.nextRelease_shortVersion hnext]
    exact Policy.nextRelease_name hnext
  have hversion : ∀ t ∈ r.family.select c.tarballs, t.version ≠ g.version := by
    intro t ht heq
    exact parsedVersion_ne_guess h hp ht (congrArg Version.ofText heq)
  refine ⟨hname, hversion, ?_⟩
  rw [add_isOk_iff hu]
  constructor
  · intro hnew
    exact ⟨fun t ht => (hnew t ht).1, fun t ht _ => (hnew t ht).2⟩
  · rintro ⟨hnames, hbuilds⟩ t ht
    refine ⟨hnames t ht, ?_⟩
    -- the build says the version, and that is new to the family
    intro hbuild
    by_cases hfamily : r.family.accepts t = true
    · exact hversion t (List.mem_filter.2 ⟨ht, hfamily⟩) (congrArg Build.version hbuild)
    · exact hbuilds t ht (Bool.eq_false_iff.2 hfamily) hbuild

/-- A release for `arm64` and the next one for `amd64` under the default name:
the guess for `arm64` has that name, and cannot be added. -/
theorem guess_repeats_name :
    let older : Tarball :=
      { name := "mysql-8.0.36-linux-glibc2.17-aarch64.tar.xz", checksum := "MD5:1", os := "linux",
        arch := "arm64", url := "u", flavor := "mysql", shortVersion := "8.0", version := "8.0.36" }
    let newer : Tarball :=
      { older with
        name := "mysql-8.0.37-linux-glibc2.17-x86_64-minimal.tar.xz", arch := "amd64",
        minimal := true, version := "8.0.37" }
    let c : Catalog := ⟨"0.5.1", "", [older, newer]⟩
    let r : Request := ⟨"8.0", "mysql", .linux, .arm64, false, false⟩
    let guess : Tarball :=
      { name := newer.name, os := "linux", flavor := "mysql", minimal := true,
        shortVersion := "8.0", version := "8.0.37", notes := guessedNote
        url := "https://dev.mysql.com/get/Downloads/MySQL-8.0/" ++ newer.name }
    c.validate = .ok () ∧ (resolveGuess c.tarballs r .default).result = .ok guess ∧
      (c.add guess).result = .error (.repeatedName newer.name) := by
  decide +kernel

/-- A guess for one flavor beside a release of another flavor that already has
the version. -/
theorem add_guess_ok_iff_flavors :
    let ours : Tarball :=
      { name := "mysql-8.4.1.tar.gz", checksum := "MD5:1", os := "linux", url := "u",
        flavor := "mysql", shortVersion := "8.4", version := "8.4.1" }
    let theirs : Tarball :=
      { ours with name := "percona-8.4.2.tar.gz", flavor := "percona", version := "8.4.2" }
    let c : Catalog := ⟨"0.5.1", "", [ours, theirs]⟩
    let r : Request := ⟨"8.4", "mysql", .linux, .amd64, false, false⟩
    ∃ g, (resolveGuess c.tarballs r .default).result = .ok g ∧ g.version = "8.4.2" ∧
      ∃ c', (c.add g).result = .ok c' := by
  intro ours theirs c r
  have hu : checkUnique c.tarballs = .ok () := by decide +kernel
  have hp : Succeedable (r.family.select c.tarballs) := by decide +kernel
  have hok : (resolveGuess c.tarballs r .default).result.map
      (fun g => (g.name, g.version, g.build.flavor)) =
      .ok ("mysql-8.4.2-linux-glibc2.17-x86_64-minimal.tar.gz", "8.4.2", "mysql") := by
        decide +kernel
  cases hg : (resolveGuess c.tarballs r .default).result with
  | error e =>
    rw [hg] at hok
    exact nomatch hok
  | ok g =>
    rw [hg] at hok
    obtain ⟨hname, hrest⟩ := Prod.mk.inj (Except.ok.inj hok)
    obtain ⟨hversion, hflavor⟩ := Prod.mk.inj hrest
    refine ⟨g, rfl, hversion, (add_guess_ok_iff c r hu hp hg).2.2.2 ⟨?_, ?_⟩⟩
    · rw [hname]
      decide +kernel
    · intro t ht hforeign hbuild
      have hflavors : ∀ t ∈ c.tarballs, r.family.accepts t = false → t.flavor = "percona" := by
        decide +kernel
      have hclash : t.flavor = g.build.flavor := congrArg Build.flavor hbuild
      rw [hflavor, hflavors t ht hforeign] at hclash
      exact absurd hclash (by decide)

end Catalog

end ReleaseCatalog
