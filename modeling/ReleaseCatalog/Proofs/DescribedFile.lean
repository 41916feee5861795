import ReleaseCatalog.Proofs.Acceptance
import ReleaseCatalog.Proofs.FileName
import ReleaseCatalog.Proofs.Verification

/-!
# Entries for files, and the drafts that they are made from

What a draft of an entry says is kept, and what it does not say is filled in. So
an entry that was made from a file is a draft that nothing is added to: the same
file makes the same entry of it, at whatever time.

* `Tarball.identified_ok_iff`: what the name of a file adds to a draft.
* `Tarball.describing_again`: an entry that was filled in is not filled in any
  further.
* `Tarball.describing_complete`: which fields of an entry may be left empty.
* `describeFile_fills`: an entry keeps its draft, and is its own.
-/

namespace ReleaseCatalog

open Digest FileName Operation

variable {s fallback name : String} {host later : Host} {draft t : Tarball} {bytes : List UInt8}

theorem orElse_of_ne (h : s ≠ "") : orElse s fallback = s := if_neg h

theorem orElse_ne_empty_iff : orElse s fallback ≠ "" ↔ s ≠ "" ∨ fallback ≠ "" := by
  unfold orElse
  split <;> simp_all

/-- What stands in for an empty text is put in once. -/
@[simp] theorem orElse_orElse (s fallback : String) :
    orElse (orElse s fallback) fallback = orElse s fallback := by
  unfold orElse
  by_cases h : s = "" <;> simp [h]

theorem stamp_ne_empty (now : Timestamp) : now.stamp ≠ "" := by
  unfold Timestamp.stamp
  rw [ne_eq, ← String.toList_inj, String.toList_ofList]
  simp

/-- A text is the one that was given, or the one that was found if none was given. -/
def Chosen (given : String) (found : Option String) (s : String) : Prop :=
  if given = "" then found = some s else given = s

theorem Chosen.kept {given : String} {found : Option String} (h : Chosen given found s)
    (hgiven : given ≠ "") :
    s = given :=
  ((if_neg hgiven).mp h).symm

theorem Chosen.ne_empty {given : String} {found : Option String} (h : Chosen given found s)
    (hfound : ∀ a, found = some a → a ≠ "") : s ≠ "" := by
  unfold Chosen at h
  split at h
  · exact hfound s h
  · exact h ▸ ‹given ≠ ""›

theorem chosen_self (found : Option String) (h : s ≠ "") : Chosen s found s := (if_neg h).mpr rfl

theorem flavor_ne_empty {flavor : String} (h : flavor? name = some flavor) : flavor ≠ "" := by
  have hknown : ∀ x ∈ knownFlavors, x ≠ "" := by decide
  exact hknown flavor (mem_of_flavor? h)

theorem version_ne_empty {version : String} (h : version? name = some version) : version ≠ "" :=
  (ne_empty_of_isRelease (isRelease_of_version? h)).1

namespace Tarball

/-- A property of a draft that the name of its file tells if the draft does not. -/
def told (name given : String) (property : Property) (found : Option String) :
    Except Error String :=
  if given = "" then foundIn name (orMissing property found) else pure given

theorem told_ok_iff {given : String} {property : Property} {found : Option String} :
    told name given property found = .ok s ↔ Chosen given found s := by
  unfold told Chosen foundIn
  split
  · rw [mapError_ok_iff, orMissing_ok_iff]
  · exact pure_eq_ok

theorem identified_eq (draft : Tarball) (name : String) :
    draft.identified name =
      told name draft.flavor .flavor (flavor? name) >>= fun flavor =>
        told name draft.version .version (version? name) >>= fun version =>
          pure { draft with
            flavor, version,
            shortVersion := orElse draft.shortVersion (Version.shortText version) } := by
  have hbranch : ∀ {α β : Type} {c : Prop} [Decidable c] {x y : Except Error α}
      {f : α → Except Error β},
      (if c then x >>= f else y >>= f) = (if c then x else y) >>= f := by
    intros
    split <;> rfl
  unfold identified told
  simp only [hbranch]

/-- **The name of a file adds flavor and version to a draft that has none**, and
a short version with the version. -/
theorem identified_ok_iff :
    draft.identified name = .ok t ↔
      ∃ flavor version, Chosen draft.flavor (flavor? name) flavor ∧
        Chosen draft.version (version? name) version ∧
        t = { draft with
          flavor, version,
          shortVersion := orElse draft.shortVersion (Version.shortText version) } := by
  rw [identified_eq]
  simp only [bind_ok_iff, told_ok_iff, pure_eq_ok, eq_comm (b := t)]
  constructor
  · rintro ⟨flavor, hflavor, version, hversion, ht⟩
    exact ⟨flavor, version, hflavor, hversion, ht⟩
  · rintro ⟨flavor, version, hflavor, hversion, ht⟩
    exact ⟨flavor, hflavor, version, hversion, ht⟩

/-- **An entry that was filled in is not filled in any further**, on the same
platform and at any time. -/
theorem describing_again (bytes : List UInt8) (h : draft.identified name = .ok t)
    (hos : later.os = host.os) (harch : later.arch = host.arch) :
    (t.describing host name bytes).identified name = .ok (t.describing host name bytes) ∧
      (t.describing host name bytes).describing later name bytes =
        t.describing host name bytes := by
  obtain ⟨flavor, version, hflavor, hversion, rfl⟩ := identified_ok_iff.1 h
  constructor
  · refine identified_ok_iff.2 ⟨flavor, version, ?_, ?_, ?_⟩
    · exact chosen_self _ (hflavor.ne_empty fun _ => flavor_ne_empty)
    · exact chosen_self _ (hversion.ne_empty fun _ => version_ne_empty)
    · unfold describing completed
      dsimp only
      rw [orElse_orElse]
  · have hdate : orElse draft.dateAdded host.now.stamp ≠ "" :=
      orElse_ne_empty_iff.2 (.inr (stamp_ne_empty _))
    unfold describing completed
    dsimp only
    rw [hos, harch, orElse_orElse, orElse_orElse, orElse_of_ne hdate, Bool.or_assoc, Bool.or_self]

/-- The fields of a draft that its entry takes over where they are not empty. -/
def draftFields : List (Tarball → String) :=
  [flavor, version, shortVersion, os, arch, dateAdded, url, notes, updatedBy]

theorem describing_keeps (h : draft.identified name = .ok t) {field : Tarball → String}
    (hfield : field ∈ draftFields) (hgiven : field draft ≠ "") :
    field (t.describing host name bytes) = field draft := by
  obtain ⟨flavor, version, hflavor, hversion, rfl⟩ := identified_ok_iff.1 h
  simp only [draftFields, List.mem_cons, List.not_mem_nil, or_false] at hfield
  rcases hfield with rfl | rfl | rfl | rfl | rfl | rfl | rfl | rfl | rfl
  · exact hflavor.kept hgiven
  · exact hversion.kept hgiven
  · exact orElse_of_ne hgiven
  · exact orElse_of_ne hgiven
  · exact orElse_of_ne hgiven
  · exact orElse_of_ne hgiven
  · rfl
  · rfl
  · rfl

/-- **An entry lacks at most what neither draft nor name nor host tell**: its URL,
its operating system, and the short version of a version that the draft gives. -/
theorem describing_complete (h : draft.identified name = .ok t) (hname : name ≠ "")
    (hurl : draft.url ≠ "") (hversion : draft.version = "" ∨ draft.shortVersion ≠ "")
    (hos : draft.os ≠ "" ∨ host.os.name ≠ "") :
    (t.describing host name bytes).Complete := by
  obtain ⟨flavor, version, hflavor, hchosen, rfl⟩ := identified_ok_iff.1 h
  have hshort : draft.shortVersion ≠ "" ∨ Version.shortText version ≠ "" := by
    refine hversion.symm.imp_right fun hnone => ?_
    have hfound : version? name = some version := (if_pos hnone).mp hchosen
    exact (ne_empty_of_isRelease (isRelease_of_version? hfound)).2
  have hchecksum : (Checksum.recorded bytes).text ≠ "" := by
    rw [ne_eq, ← String.toList_inj, Checksum.toList_text]
    simp
  exact ⟨hname, hurl, orElse_ne_empty_iff.2 hshort, hchosen.ne_empty fun _ => version_ne_empty,
    orElse_ne_empty_iff.2 hos, .inl hchecksum⟩

end Tarball

/-- **The entry for a file keeps what its draft says, and is its own draft.**
Name, size and checksum are those of the file, whatever the draft says.
Described once more on the same platform, at any time and as long as the file is
the same, the entry comes out unchanged. Nothing is wrong with an entry that has
a URL and whose version the name of the file told. -/
theorem describeFile_fills (host : Host) (path : Path) (draft d : Tarball) (m : Machine)
    (h : ((describeFile host path draft).run m).1.result = .ok d) :
    (∃ bytes, m.disk.read path = .ok bytes ∧ path.fileName? = some d.name ∧
      d.size = fileSize bytes.length ∧
      d.checksum = (Checksum.recorded bytes).text) ∧
    (∀ field ∈ Tarball.draftFields, field draft ≠ "" → field d = field draft) ∧
    (draft.minimal = true → d.minimal = true) ∧
    (∀ (later : Host) (m' : Machine), later.os = host.os → later.arch = host.arch →
      m'.disk.read path = m.disk.read path →
        ((describeFile later path d).run m').1.result = .ok d) ∧
    (draft.url ≠ "" → draft.version = "" → host.os.name ≠ "" → d.issues = []) := by
  obtain ⟨name, bytes, t, hname, hread, hidentified, rfl⟩ := describeFile_ok_iff.1 h
  refine ⟨⟨bytes, hread, hname, rfl, rfl⟩, fun field hfield hgiven => ?_, fun hminimal => ?_,
    fun later m' hos harch hsame => ?_, fun hurl hversion hos => ?_⟩
  · exact Tarball.describing_keeps hidentified hfield hgiven
  · obtain ⟨_, _, -, -, rfl⟩ := Tarball.identified_ok_iff.1 hidentified
    exact Bool.or_eq_true_iff.2 (.inl hminimal)
  · obtain ⟨hagain, hsettled⟩ := Tarball.describing_again bytes hidentified hos harch
    exact describeFile_ok_iff.2 ⟨name, bytes, _, hname, hsame.trans hread, hagain, hsettled.symm⟩
  · have hne : name ≠ "" := Path.fileName?_ne_empty hname
    exact Tarball.issues_nil_iff.2
      (Tarball.describing_complete hidentified hne hurl (.inl hversion) (.inr hos))

/-- A draft with a short version of its own, described on a leap day and again
on the day after. -/
theorem describeFile_fills_leap_day :
    let clock : Clock := ⟨23, 59, 0, 0, by decide, by decide, by decide, by decide⟩
    let host : Host := ⟨.linux, .amd64, 7, ⟨2024, 2, 29, by decide⟩, clock⟩
    let later : Host := ⟨.linux, .amd64, 8, ⟨2024, 3, 1, by decide⟩, clock⟩
    let path : Path := ⟨"mysql-8.0.38-macos14-arm64-minimal.tar.gz"⟩
    let m : Machine :=
      ⟨⟨[(["mysql-8.0.38-macos14-arm64-minimal.tar.gz"], .file [0x61, 0x62, 0x63] 0o644)]⟩, [], []⟩
    let draft : Tarball :=
      { os := "macOS", shortVersion := "8", url := "u", notes := "n", size := -1 }
    ∃ d, ((describeFile host path draft).run m).1.result = .ok d ∧ d.os = "macOS" ∧
      d.shortVersion = "8" ∧ d.size = 3 ∧
      d.issues = [] ∧ ((describeFile later path d).run m).1.result = .ok d := by
  intro clock host later path m draft
  have hok : ((describeFile host path draft).run m).1.result.isOk = true := by decide +kernel
  cases hd : ((describeFile host path draft).run m).1.result with
  | error e =>
    rw [hd] at hok
    exact nomatch hok
  | ok d =>
    obtain ⟨⟨bytes, hread, -, hsize, -⟩, hkept, -, hagain, hissues⟩ :=
      describeFile_fills host path draft d m hd
    have hbytes : m.disk.read path = .ok [0x61, 0x62, 0x63] := by decide +kernel
    obtain rfl := Except.ok.inj (hbytes.symm.trans hread)
    have hos : d.os = "macOS" := hkept Tarball.os (by simp [Tarball.draftFields]) (by decide)
    have hshort : d.shortVersion = "8" :=
      hkept Tarball.shortVersion (by simp [Tarball.draftFields]) (by decide)
    have hsize' : d.size = 3 := hsize.trans (by decide)
    exact ⟨d, rfl, hos, hshort, hsize', hissues (by decide) rfl (by decide),
      hagain later m rfl rfl rfl⟩

end ReleaseCatalog
