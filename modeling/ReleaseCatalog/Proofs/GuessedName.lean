import ReleaseCatalog.Proofs.Described
import ReleaseCatalog.Proofs.Freshness

/-!
# Guesses read back

The templates that name a guess and the recognition of file names know nothing
of each other. Under the default rules they agree: what is recognized in the
name of a guess is what it was made from.

* `FileName.baseName_urlFor`: the name is at the end of the URL.
* `FileName.version?_guess`: the version that is found in the name is the whole
  one, and not a part of the C library's or the architecture's numbers.
* `FileName.Details.ofName_defaultName`: everything that the name tells.
* `describeUrl_guess`: once it is published, a guess is described as it was guessed.
-/

namespace ReleaseCatalog

open Text

namespace FileName

variable {name version tail short : String} {d : List Char} {os : OperatingSystem}
  {major minor patch : UInt64}

theorem baseName_urlFor (p : Policy) (short : String) (hslash : '/' ∉ name.toList)
    (hne : name ≠ "") :
    baseName (p.urlFor short name) = name := by
  have hurl : p.urlFor short name =
      String.ofList ((p.downloadUrl.toList.reverse.dropWhile (· = '/')).reverse ++ '-' ::
        short.toList ++
        '/' :: name.toList) := by
    apply String.toList_injective
    simp [Policy.urlFor, String.join]
  rw [hurl]
  exact baseName_of_slash hslash hne

/-- The patch releases of an allowed short version are listed ones. -/
theorem isListed_allowed (hs : short ∈ Policy.default.allowedVersions) (hd : IsNumber d) :
    IsListed (short.toList ++ '.' :: d) := by
  have height : ∀ k ∈ ['0', '1', '2', '3', '4'], IsListed ("8.".toList ++ k :: '.' :: d) := by
    intro k hk
    exact .eight hk hd
  have hzero : IsNumber ['0'] := isNumber_of_all (by decide) (by decide)
  simp only [Policy.default, List.mem_cons, List.not_mem_nil, or_false] at hs
  rcases hs with rfl | rfl | rfl | rfl | rfl | rfl | rfl
  · exact .five hd
  · exact height '0' (by decide)
  · exact height '1' (by decide)
  · exact height '2' (by decide)
  · exact height '3' (by decide)
  · exact height '4' (by decide)
  · exact .nine hzero hd

/-- The text of a patch release is the short version, a dot and the digits of
the patch. -/
theorem toList_text_three (major minor patch : UInt64) :
    (Version.mk [major, minor, patch]).text.toList =
      (Version.mk [major, minor]).text.toList ++ '.' :: digits patch.toNat := by
  simp only [Version.text, String.toList_ofList]
  exact joined_concat (List.cons_ne_nil (digits major.toNat) [digits minor.toNat])

theorem toList_guess (version tail : String) :
    ("mysql-" ++ version ++ tail).toList = "mysql-".toList ++ (version.toList ++ tail.toList) := by
  rw [String.toList_append, String.toList_append, List.append_assoc]

/-- **A version between words that no release number starts in is found whole.**
The dash behind it ends it. -/
theorem version?_guess (hs : (Version.mk [major, minor]).text ∈ Policy.default.allowedVersions)
    (htail : tail.toList.head? = some '-') :
    version? ("mysql-" ++ (Version.mk [major, minor, patch]).text ++ tail) =
      some (Version.mk [major, minor, patch]).text := by
  have hdash : ∀ c ∈ tail.toList.head?, isDecimal c = false := by
    intro c hc
    rw [htail] at hc
    obtain rfl := Option.some.inj hc
    decide
  have hlisted := isListed_allowed hs (isNumber_digits patch.toNat)
  have hfound := leftmost_of_front (release?_of_isListed hlisted hdash)
  rw [← toList_text_three] at hfound
  have hstart : ∀ s, leftmost release? ("mysql-".toList ++ s) = leftmost release? s := fun _ => rfl
  unfold version?
  rw [toList_guess, hstart, hfound]
  exact congrArg some String.ofList_toList

theorem flavor?_guess (hs : (Version.mk [major, minor]).text ∈ Policy.default.allowedVersions) :
    flavor? ("mysql-" ++ (Version.mk [major, minor, patch]).text ++ tail) = some "mysql" := by
  unfold flavor?
  rw [toList_guess, toList_text_three]
  simp only [Policy.default, List.mem_cons, List.not_mem_nil, or_false] at hs
  rcases hs with hs | hs | hs | hs | hs | hs | hs <;> rw [hs] <;> rfl

/-- **A search that finds nothing in the front of a name, nor in a release
number, is one in the end of it.** -/
theorem leftmost_guess {α : Type} {find : List Char → Option α} (tail : String)
    (hv : IsRelease version.toList)
    (hstart : ∀ s, leftmost find ("mysql-".toList ++ s) = leftmost find s)
    (h : ∀ c, c = '.' ∨ isDecimal c = true → ∀ rest, find (c :: rest) = none) :
    leftmost find ("mysql-" ++ version ++ tail).toList = leftmost find tail.toList := by
  have hrelease : leftmost find (version.toList ++ tail.toList) = leftmost find tail.toList :=
    leftmost_append fun c hc => h c (mem_isRelease hv hc)
  rw [toList_guess, hstart, hrelease]

/-- The text starts with a character that no release number has. -/
def foreign : List Char → Bool
  | [] => false
  | c :: _ => c != '.' && !isDecimal c

theorem after?_of_foreign {word rest : List Char} {c : Char} (hword : foreign word = true)
    (hc : c = '.' ∨ isDecimal c = true) : after? word (c :: rest) = none := by
  cases word with
  | nil => exact nomatch hword
  | cons x more =>
    have hne : x ≠ c := by
      rintro rfl
      simp only [foreign, Bool.and_eq_true, bne_iff_ne, Bool.not_eq_true'] at hword
      rcases hc with hc | hc
      · exact hword.1 hc
      · exact nomatch hword.2.symm.trans hc
    exact if_neg hne

/-- The words that the operating system and a minimal build are told by. -/
def platformWords : List String := ["Linux", "linux", "macos", "minimal"]

theorem foreign_words : ∀ word ∈ platformWords ++ archSpellings, foreign word.toList = true := by
  decide +kernel

theorem contains_guess (tail : String) (hv : IsRelease version.toList) :
    ∀ word ∈ platformWords,
      contains word.toList ("mysql-" ++ version ++ tail).toList =
        contains word.toList tail.toList := by
  intro word hword
  have hforeign := foreign_words word (List.mem_append_left _ hword)
  -- some of the words start with a letter of `mysql`, but none goes on with the next one
  have hstart : ∀ s, leftmost (after? word.toList) ("mysql-".toList ++ s) =
      leftmost (after? word.toList) s := by
    intro s
    simp only [platformWords, List.mem_cons, List.not_mem_nil, or_false] at hword
    rcases hword with rfl | rfl | rfl | rfl <;> rfl
  unfold contains
  rw [leftmost_guess tail hv hstart fun c hc rest => after?_of_foreign hforeign hc]

theorem os?_guess (hv : IsRelease version.toList) :
    os? ("mysql-" ++ version ++ tail) = os? tail := by
  have hcontains := contains_guess tail hv
  unfold os?
  rw [hcontains "Linux" (by decide), hcontains "linux" (by decide), hcontains "macos" (by decide)]

theorem isMinimal_guess (hv : IsRelease version.toList) :
    isMinimal ("mysql-" ++ version ++ tail) = isMinimal tail :=
  contains_guess tail hv "minimal" (by decide)

theorem arch?_guess (hv : IsRelease version.toList) :
    arch? ("mysql-" ++ version ++ tail) = arch? tail := by
  unfold arch?
  rw [leftmost_guess tail hv fun s => rfl]
  intro c hc rest
  refine List.find?_eq_none.2 fun a ha => ?_
  rw [after?_of_foreign (foreign_words a (List.mem_append_right _ ha)) hc]
  decide

end FileName

namespace Policy

variable {os : OperatingSystem} {short flavor : String} {v : Version} {major minor patch : UInt64}

/-- What stands behind the version in the file name of a release under the
default rules. -/
def defaultEnd (os short : String) : String :=
  if os = "darwin" then "-macos14-arm64.tar.gz"
  else if short = "8.0" then "-linux-glibc2.17-x86_64-minimal.tar.xz"
  else "-linux-glibc2.17-x86_64-minimal.tar.gz"

theorem defaultName_eq (os version short : String) :
    defaultName os version short = "mysql-" ++ version ++ defaultEnd os short := by
  unfold defaultName defaultEnd
  split
  · rfl
  · split <;> simp [String.append_assoc]

/-- The systems that have a default rule, with the ends of their names. -/
def defaultEnds : List (OperatingSystem × String) :=
  [(.linux, "-linux-glibc2.17-x86_64-minimal.tar.xz"),
    (.linux, "-linux-glibc2.17-x86_64-minimal.tar.gz"), (.darwin, "-macos14-arm64.tar.gz")]

theorem defaultEnd_mem (short : String) (hos : os = .linux ∨ os = .darwin) :
    (os, defaultEnd os.name short) ∈ defaultEnds := by
  unfold defaultEnd
  rcases hos with rfl | rfl
  · rw [if_neg (by decide)]
    split <;> simp [defaultEnds]
  · simp [defaultEnds, OperatingSystem.name]

/-- **Under the default rules there is a guess for Linux and for macOS**,
whatever the flavor is. -/
theorem nextRelease_default (short flavor : String) (hv : v.triple? = some (major, minor, patch))
    (hos : os = .linux ∨ os = .darwin) :
    (default.nextRelease v short flavor os).result = .ok {
      name := defaultName os.name (successorText major minor patch) short
      url := default.urlFor short (defaultName os.name (successorText major minor patch) short)
      version := successorText major minor patch
      shortVersion := short
      flavor
      os := os.name
      minimal := decide (os = .linux)
      notes := guessedNote } := by
  obtain ⟨rule, hrule, hdefault, hminimal⟩ : ∃ rule, default.ruleFor os = .ok rule ∧
      (rule = linuxRule ∨ rule = darwinRule) ∧ rule.forceMinimal = decide (os = .linux) := by
    rcases hos with rfl | rfl
    · exact ⟨linuxRule, ruleFor_default_iff.2 (.inl ⟨rfl, rfl⟩), .inl rfl, rfl⟩
    · exact ⟨darwinRule, ruleFor_default_iff.2 (.inr ⟨rfl, rfl⟩), .inr rfl, rfl⟩
  obtain ⟨g, hg⟩ : ∃ g, (default.nextRelease v short flavor os).result = .ok g := by
    rw [nextRelease_result hv, hrule]
    exact ⟨_, bind_ok_iff.2 ⟨rule, rfl, bind_ok_iff.2 ⟨_, fill_default _ _ _ hdefault, rfl⟩⟩⟩
  have hname := nextRelease_name hg
  obtain ⟨a, b, c, rule', name, hv', hrule', -, rfl⟩ := nextRelease_ok hg
  obtain ⟨rfl, rfl, rfl⟩ : major = a ∧ minor = b ∧ patch = c := by simpa using hv.symm.trans hv'
  obtain rfl : rule = rule' := Except.ok.inj (hrule.symm.trans hrule')
  rw [hg, ← hminimal, ← hname]

end Policy

namespace FileName

open Policy (defaultEnd defaultEnds defaultName)

variable {version short : String} {os : OperatingSystem} {major minor patch : UInt64}

/-- What the end of a name tells. -/
theorem defaultEnds_tell : ∀ e ∈ defaultEnds,
    os? e.2 = some e.1 ∧ (arch? e.2).isSome ∧ isMinimal e.2 = decide (e.1 = .linux) ∧
      e.2.toList.head? = some '-' ∧ '/' ∉ e.2.toList := by
  decide +kernel

/-- **What the name of a guess tells.** -/
theorem Details.ofName_defaultName (patch : UInt64) (short : String)
    (hs : (Version.mk [major, minor]).text ∈ Policy.default.allowedVersions)
    (hos : os = .linux ∨ os = .darwin) :
    ∃ arch, Details.ofName (defaultName os.name (Version.mk [major, minor, patch]).text short) =
      .ok {
      flavor := "mysql"
      os
      arch
      version := (Version.mk [major, minor, patch]).text
      shortVersion := (Version.mk [major, minor]).text
      minimal := decide (os = .linux) } := by
  have hv := isRelease_text major minor patch
  obtain ⟨hsystem, harch, hminimal, htail, -⟩ :=
    defaultEnds_tell _ (Policy.defaultEnd_mem short hos)
  obtain ⟨arch, harch⟩ := Option.isSome_iff_exists.1 harch
  have hshort : Version.shortText (Version.mk [major, minor, patch]).text =
      (Version.mk [major, minor]).text :=
    Version.shortText_text (by simp)
  rw [Policy.defaultName_eq]
  exact ⟨arch, ofName_ok_iff.2
    ⟨flavor?_guess hs, (os?_guess hv).trans hsystem, version?_guess hs htail,
    (arch?_guess hv).trans harch, hshort.symm, ((isMinimal_guess hv).trans hminimal).symm⟩⟩

theorem slash_not_mem_defaultName (hv : IsRelease version.toList) (short : String)
    (hos : os = .linux ∨ os = .darwin) : '/' ∉ (defaultName os.name version short).toList := by
  obtain ⟨-, -, -, -, htail⟩ := defaultEnds_tell _ (Policy.defaultEnd_mem short hos)
  rw [Policy.defaultName_eq, toList_guess, List.mem_append, List.mem_append]
  rintro (hslash | hslash | hslash)
  · exact absurd hslash (by decide)
  · exact absurd (mem_isRelease hv hslash) (by decide)
  · exact htail hslash

end FileName

open FileName

/-- The two say the same about everything that can be known of a tarball by its
URL, except for the architecture, which a guess leaves open. -/
structure Tarball.Agrees (t g : Tarball) : Prop where
  name : t.name = g.name
  url : t.url = g.url
  flavor : t.flavor = g.flavor
  os : t.os = g.os
  version : t.version = g.version
  shortVersion : t.shortVersion = g.shortVersion
  minimal : t.minimal = g.minimal

variable {os : OperatingSystem}

/-- **A guess under the default rules is read back as it was made.** For every
short version that may be guessed for, and whatever the newest patch release is,
short of the greatest number, there is a guess for Linux and for macOS. The name
at the end of its URL is its name, everything is recognized in that, and a
server that has the file gets it described as it was guessed. -/
theorem describeUrl_guess (major minor patch : UInt64) (more : List UInt64)
    (hs : (Version.mk [major, minor]).text ∈ Policy.default.allowedVersions)
    (hpatch : patch.toNat + 1 < UInt64.size) (hos : os = .linux ∨ os = .darwin) :
    ∃ g next,
      (Policy.default.nextRelease ⟨major :: minor :: patch :: more⟩ (Version.mk [major, minor]).text
        "mysql" os).result =
        .ok g ∧
      next.toNat = patch.toNat + 1 ∧ g.version = (Version.mk [major, minor, next]).text ∧
      g.shortVersion = (Version.mk [major, minor]).text ∧ g.flavor = "mysql" ∧ g.os = os.name ∧
      baseName g.url = g.name ∧
      (∃ d, Details.ofName g.name = .ok d ∧ d.flavor = g.flavor ∧ d.os = os ∧
        d.version = g.version ∧
        d.shortVersion = g.shortVersion ∧ d.minimal = g.minimal) ∧
      ∀ (host : Host) (server : Server) (size : Int64) (digest : String),
        server.size g.url = .ok size → server.digest .md5 g.url = .ok digest →
          ∃ t, ((describeUrl host g.url).run server).1.result = .ok t ∧ t.Agrees g := by
  have hnext := toNat_next hpatch
  have hv := isRelease_text major minor (patch + 1)
  have hguess := Policy.nextRelease_default (v := ⟨major :: minor :: patch :: more⟩)
    (Version.mk [major, minor]).text "mysql" rfl hos
  obtain ⟨arch, hname⟩ :=
    Details.ofName_defaultName (patch + 1) (Version.mk [major, minor]).text hs hos
  have hbase := baseName_urlFor Policy.default (Version.mk [major, minor]).text
    (slash_not_mem_defaultName hv (Version.mk [major, minor]).text hos)
      (Details.ne_empty_of_ofName hname)
  refine ⟨_, patch + 1, hguess, hnext, rfl, rfl, rfl, rfl, hbase,
    ⟨_, hname, rfl, rfl, rfl, rfl, rfl⟩, ?_⟩
  intro host server size digest hsize hdigest
  refine ⟨_, describeUrl_answered (hbase.symm ▸ hname) hsize hdigest, ?_⟩
  exact ⟨hbase, rfl, rfl, rfl, rfl, rfl, rfl⟩

/-- The guess after a version of four numbers, and its description from a server
that has it. -/
theorem describeUrl_guess_linux :
    ∃ g, (Policy.default.nextRelease ⟨[8, 0, 36, 2]⟩ (Version.mk [8, 0]).text "mysql"
      .linux).result = .ok g ∧
      g.version = (Version.mk [8, 0, 37]).text ∧
      ∀ host : Host, ∃ t,
        ((describeUrl host g.url).run ⟨fun _ => .ok 5, fun _ _ => .ok "00", []⟩).1.result = .ok t ∧
        t.Agrees g := by
  obtain ⟨g, next, hg, hnext, hversion, -, -, -, -, -, hdescribed⟩ :=
    describeUrl_guess 8 0 36 [2] (by decide +kernel) (by decide) (.inl rfl)
  obtain rfl : next = 37 := UInt64.toNat_inj.1 hnext
  exact ⟨g, hg, hversion, fun host => hdescribed host _ 5 "00" rfl rfl⟩

end ReleaseCatalog
