import ReleaseCatalog.Proofs.Disk.Route
import ReleaseCatalog.Proofs.Disk.Trail
import ReleaseCatalog.Proofs.Persistence
import ReleaseCatalog.Proofs.VersionText

/-!
# Writing a catalog in one step

The document goes to a temporary file beside the old one, and only when it is
complete does it take the name of the old one. So at every point, whatever the disk
refuses, the file of the catalog holds the document that it held or the new one.

* `CatalogFile.hasDirectory_of_locate_temporary`: the temporary file is never
  the file itself.
* `CatalogFile.replace_reaches`: up to the renaming, only the temporary file is
  touched.
* `CatalogFile.persist_atomic`: every point of the writing of a catalog.
-/

namespace ReleaseCatalog

open Operation

namespace CatalogFile

variable {f : CatalogFile} {host : Host} {c : Catalog} {d : Disk} {m : Machine}
  {document : List UInt8} {e : Error}

theorem prepareDirectory_preserves (f : CatalogFile) (places : Set Place) :
    f.prepareDirectory.Preserves (Disk.Keeps places) := by
  unfold prepareDirectory
  split
  · exact preserves_ofReport _
  · refine (preserves_look _).bind fun there => ?_
    split
    · exact preserves_ofReport _
    · exact (preserves_ofReport _).bind fun _ =>
        preserves_onDisk (preserves_makeDirectories places _ _)

/-- **The temporary file is not the file itself.** Where both paths lead to one
place that is a directory. -/
theorem hasDirectory_of_locate_temporary {place : Place} (h : d.locate f.path = .ok place)
    (ht : d.locate (f.temporary host) = .ok place) : d.HasDirectory place := by
  have hending : (String.join ["json.", toString host.processId, ".tmp"]).toList =
      "json.".toList ++ Text.digits host.processId ++ ".tmp".toList := by
    simp [Text.digits, String.join]
  refine Disk.hasDirectory_of_locate_withEnding ?_ ?_ h ht
  · rw [hending]
    simp
  · rw [hending]
    intro hslash
    have hdigit : '/' ∈ Text.digits host.processId := by simpa using hslash
    exact Text.ne_of_isDigit (Text.digits_isDigit _ _ hdigit) (by decide) rfl

/-- **Up to the renaming nothing but the temporary file is touched.** If the
writing fails that is the end of it, but for the removal of the temporary file. -/
theorem replace_reaches (f : CatalogFile) (host : Host) (document : List UInt8) (m : Machine) :
    ∃ m', m.Reaches (Disk.Spares (f.temporary host)) m' ∧
      ((∃ e, ((f.replace host document).run m).1.result = .error e) ∧
          ((f.replace host document).run m).2 = (m'.perform (.remove (f.temporary host))).2 ∨
        ((f.replace host document).run m).1.result = .ok () ∧
          ∃ d, ((f.replace host document).run m).2 = m'.step d) := by
  have hwrite := preserves_write (f.temporary host) document m
  unfold replace
  dsimp only
  rw [result_orElseUndo, world_orElseUndo, run_bind]
  cases hresult : (Operation.run (onDisk (f.temporary host) _) m).1.result with
  | error e => exact ⟨_, hwrite, .inl ⟨⟨e, rfl⟩, rfl⟩⟩
  | ok _ =>
    dsimp only
    rw [run_onDisk f.path, outcome_perform]
    -- a renaming that failed has left the disk as it was
    have hstay := hwrite.trans (Machine.reaches_step (Disk.Spares.refl (f.temporary host) _))
    rcases Machine.perform_cases _ (.rename (f.temporary host) f.path) with
      ⟨d, -, hnamed⟩ | ⟨cause, hnamed⟩ | ⟨fault, hnamed⟩ <;> rw [hnamed]
    · exact ⟨_, hwrite, .inr ⟨rfl, d, rfl⟩⟩
    · exact ⟨_, hstay, .inl ⟨⟨_, rfl⟩, rfl⟩⟩
    · exact ⟨_, hstay, .inl ⟨⟨_, rfl⟩, rfl⟩⟩

/-- A catalog that the checks refuse is not written, and nothing is touched. -/
theorem persist_refused (h : checkUnique c.tarballs ≠ .ok () ∨ c.validate ≠ .ok ()) :
    (∃ e, ((f.persist host c).run m).1.result = .error e) ∧ ((f.persist host c).run m).2 = m := by
  unfold persist
  cases hunique : checkUnique c.tarballs with
  | error e => exact ⟨⟨e, rfl⟩, rfl⟩
  | ok _ =>
    cases hvalid : c.validate with
    | error e => exact ⟨⟨e, rfl⟩, rfl⟩
    | ok _ => exact absurd h (not_or.2 ⟨not_not.2 hunique, not_not.2 hvalid⟩)

/-- A catalog that the checks accept is written if there is a directory for it. -/
theorem persist_cases (f : CatalogFile) (host : Host) (m : Machine)
    (hu : checkUnique c.tarballs = .ok ()) (hv : c.validate = .ok ()) :
    let prepared := f.prepareDirectory.run m
    let replaced := (f.replace host c.inOrder.bytes).run prepared.2
    let done := (f.persist host c).run m
    (∃ e, prepared.1.result = .error e ∧ done.1.result = .error e ∧ done.2 = prepared.2) ∨
      prepared.1.result = .ok () ∧ done.1.result = replaced.1.result ∧ done.2 = replaced.2 := by
  intro prepared replaced done
  have hdone : done = (f.prepareDirectory >>= fun _ =>
      f.replace host c.inOrder.bytes >>= fun _ =>
        log (.documentWritten c.tarballs.length f.path)).run m := by
    show (f.persist host c).run m = _
    unfold persist
    rw [hu, hv]
    rfl
  rw [hdone, run_bind]
  cases (f.prepareDirectory.run m).1.result with
  | error e => exact .inl ⟨e, rfl, rfl, rfl⟩
  | ok _ =>
    refine .inr ⟨rfl, ?_⟩
    dsimp only
    rw [run_bind]
    show _ = ((f.replace host c.inOrder.bytes).run (f.prepareDirectory.run m).2).1.result ∧ _
    cases ((f.replace host c.inOrder.bytes).run (f.prepareDirectory.run m).2).1.result <;>
      exact ⟨rfl, rfl⟩

/-- Where the path of the file leads, nothing changes when only the temporary
file is touched. -/
theorem keeps_of_spares {d' : Disk} {places : Set Place} (h : Disk.Spares (f.temporary host) d d')
    (hplaces : ∀ place ∈ places, d'.locate f.path = .ok place) : Disk.Keeps places d d' := by
  refine ⟨h.directories.keeps, fun place hp => ?_⟩
  by_cases ht : d.locate (f.temporary host) = .ok place
  · -- the temporary file would be the file itself, so neither is one
    have hd := hasDirectory_of_locate_temporary (h.directories.locate_iff.2 (hplaces place hp)) ht
    rw [Disk.bytes?_of_hasDirectory hd, Disk.bytes?_of_hasDirectory ((h.directories place).1 hd)]
  · exact h.files place ht

theorem reaches_keeps_of_spares {m' : Machine} {places : Set Place}
    (h : m.Reaches (Disk.Spares (f.temporary host)) m')
    (hplaces : ∀ place ∈ places, m'.disk.locate f.path = .ok place) :
    m.Reaches (Disk.Keeps places) m' := by
  obtain ⟨passed, ht, hf, hlast, hp⟩ := h
  refine ⟨passed, ht, hf, keeps_of_spares hlast hplaces, fun d hd => ?_⟩
  obtain ⟨hfirst, hlater⟩ := hp d hd
  refine ⟨keeps_of_spares hfirst fun place hplace => ?_, keeps_of_spares hlater hplaces⟩
  exact hlater.directories.locate_iff.2 (hplaces place hplace)

/-- The places that the path of the file leads to. -/
def places (f : CatalogFile) (d : Disk) : Set Place := {place | d.locate f.path = .ok place}

/-- **A catalog is written in one step, the last one, or not at all.** Up to it
no file changes that the path of the file leads to in the end. -/
theorem persist_reaches (f : CatalogFile) (host : Host) (c : Catalog) (m : Machine) :
    let done := (f.persist host c).run m
    ∃ m', m.Reaches (Disk.Keeps (f.places done.2.disk)) m' ∧
      ((∃ e, done.1.result = .error e) ∧ done.2 = m' ∨
        done.1.result = .ok () ∧ Disk.KeepsDirectories m'.disk done.2.disk ∧
        ∃ d, done.2 = m'.step d) := by
  intro done
  by_cases haccepted : checkUnique c.tarballs = .ok () ∧ c.validate = .ok ()
  · obtain ⟨hu, hv⟩ := haccepted
    have hprepare := f.prepareDirectory_preserves (f.places done.2.disk) m
    rcases persist_cases f host m hu hv with ⟨e, -, hresult, hdone⟩ | ⟨-, hresult, hdone⟩
    · refine ⟨done.2, ?_, .inl ⟨⟨e, hresult⟩, rfl⟩⟩
      rwa [← hdone] at hprepare
    · obtain ⟨m', hspares, ⟨⟨e, hfailed⟩, hremoved⟩ | ⟨hok, d, hstep⟩⟩ :=
        replace_reaches f host c.inOrder.bytes (f.prepareDirectory.run m).2
      · have hall : (f.prepareDirectory.run m).2.Reaches
            (Disk.Spares (f.temporary host)) done.2 := by
          rw [show done.2 = _ from hdone.trans hremoved]
          exact hspares.trans (preserves_remove (f.temporary host) m')
        refine ⟨done.2, ?_, .inl ⟨⟨e, hresult.trans hfailed⟩, rfl⟩⟩
        exact hprepare.trans (reaches_keeps_of_spares hall fun place hplace => hplace)
      · -- the renaming changes no directory, so the path led to the same places before it
        obtain ⟨-, hsame, -⟩ := runs_replace (runs_of_ok hok)
        rw [← hdone] at hsame
        obtain ⟨-, -, -, hlast, -⟩ := id hspares
        have hdirs := (hlast.directories.symm.trans hsame).keeps
        refine ⟨m', ?_, .inr ⟨hresult.trans hok, hdirs, d, hdone.trans hstep⟩⟩
        refine hprepare.trans (reaches_keeps_of_spares hspares fun place hplace => ?_)
        exact hlast.directories.locate_iff.1 (hsame.locate_iff.2 hplace)
  · obtain ⟨herror, hdone⟩ : (∃ e, done.1.result = .error e) ∧ done.2 = m :=
      persist_refused (not_and_or.1 haccepted)
    exact ⟨m, .refl m, .inl ⟨herror, hdone⟩⟩

/-- Every disk on the way keeps the files that the path of the file leads to in
the end, unless it is the last one and the catalog is written. No directory is
lost on the way. -/
theorem persist_passes (f : CatalogFile) (host : Host) (c : Catalog) (m : Machine) :
    let done := (f.persist host c).run m
    ∃ passed, done.2.trail = passed ++ m.trail ∧ Disk.KeepsDirectories m.disk done.2.disk ∧
      ∀ d ∈ done.2.disk :: passed, Disk.KeepsDirectories d done.2.disk ∧
        (Disk.Keeps (f.places done.2.disk) m.disk d ∨
          done.1.result = .ok () ∧ d = done.2.disk) := by
  intro done
  obtain ⟨m', ⟨before, hbefore, -, hlast, hkept⟩, hcase⟩ := persist_reaches f host c m
  rcases hcase with ⟨-, (hdone : done.2 = m')⟩ | ⟨hok, hdirs, d₁, (hdone : done.2 = m'.step d₁)⟩
  · rw [← hdone] at hbefore hlast hkept
    refine ⟨before, hbefore, hlast.directories, fun d hd => ?_⟩
    rcases List.mem_cons.1 hd with rfl | hd
    · exact ⟨.refl _, .inl hlast⟩
    · exact ⟨(hkept d hd).2.directories, .inl (hkept d hd).1⟩
  · -- the disk that the last step leaves comes in front of those before it
    have hdisk : done.2.disk = d₁ := congrArg Machine.disk hdone
    refine ⟨d₁ :: before, ?_, hlast.directories.trans hdirs, fun d hd => ?_⟩
    · rw [hdone]
      exact congrArg (d₁ :: ·) hbefore
    · rw [← hdisk, List.mem_cons, List.mem_cons] at hd
      rcases hd with rfl | rfl | hd
      · exact ⟨.refl _, .inr ⟨hok, rfl⟩⟩
      · exact ⟨.refl _, .inr ⟨hok, rfl⟩⟩
      · exact ⟨(hkept d hd).2.directories.trans hdirs, .inl (hkept d hd).1⟩

theorem content?_persisted (h : ((f.persist host c).run m).1.result = .ok ()) :
    ((f.persist host c).run m).2.disk.content? f.path = some c.inOrder.bytes := by
  obtain ⟨-, -, -, -, hread⟩ := runs_persist (runs_of_ok h)
  unfold Disk.content?
  rw [hread]
  rfl

/-- **What has failed behind the making of the directory has removed the
temporary file.** The removal is the last action, so it works unless the last
fault that was met is for it. -/
theorem content?_temporary (hu : checkUnique c.tarballs = .ok ()) (hv : c.validate = .ok ())
    (hprepared : (f.prepareDirectory.run m).1.result = .ok ())
    (hfailed : ((f.persist host c).run m).1.result = .error e) :
    ∃ k, ((f.persist host c).run m).2.trail.length = m.trail.length + (k + 1) ∧
      (m.faults[k]?.join = none →
        ((f.persist host c).run m).2.disk.content? (f.temporary host) = none) := by
  rcases persist_cases f host m hu hv with ⟨e', herror, -⟩ | ⟨-, hresult, hdone⟩
  · exact nomatch hprepared.symm.trans herror
  obtain ⟨m', hspares, ⟨-, hremoved⟩ | ⟨hok, -⟩⟩ :=
    replace_reaches f host c.inOrder.bytes (f.prepareDirectory.run m).2
  · obtain ⟨i, hti, hfi⟩ := (f.prepareDirectory_preserves ∅ m).counts
    obtain ⟨j, htj, hfj⟩ := hspares.counts
    have hfaults : m'.faults = m.faults.drop (i + j) := by rw [hfj, hfi, List.drop_drop]
    obtain ⟨d, hstep⟩ := m'.perform_step (.remove (f.temporary host))
    refine ⟨i + j, ?_, fun hworks => ?_⟩
    · rw [hdone, hremoved, hstep]
      show (d :: m'.trail).length = _
      rw [List.length_cons, htj, hti]
      omega
    · rw [hdone, hremoved]
      refine Machine.content?_perform_remove ?_
      rw [hfaults, List.head?_drop]
      exact hworks
  · exact nomatch hfailed.symm.trans (hresult.trans hok)

/-- **At every point of the writing of a catalog its file holds what it held or
the new document.**

The disks passed are those that the actions leave, whatever the disk refuses.
The document stands at the place that the path of the file leads to; where
directories are made, a path that leads nowhere can come to lead somewhere, and
one that leads somewhere goes on leading there. A failure leaves the document as
it was at every point, success leaves the whole new one; where the disk refuses
nothing, the directory is there and no other one is in the way, the writing
succeeds. What the checks refuse touches nothing. A failure behind the making of
the directory leaves no temporary file, if that can be removed. -/
theorem persist_atomic (f : CatalogFile) (host : Host) (c : Catalog) (m : Machine) :
    let done := (f.persist host c).run m
    let document := c.inOrder.bytes
    ∃ passed, done.2.trail = passed ++ m.trail ∧
      (∀ d ∈ m.disk :: passed,
        ∀ place, d.locate f.path = .ok place → done.2.disk.locate f.path = .ok place) ∧
      (∀ place, done.2.disk.locate f.path = .ok place → ∀ d ∈ done.2.disk :: passed,
        d.bytes? place = m.disk.bytes? place ∨
        done.1.result = .ok () ∧ d.bytes? place = some document) ∧
      (m.disk.Fixes f.path → ∀ d ∈ done.2.disk :: passed,
        d.content? f.path = m.disk.content? f.path ∨
        done.1.result = .ok () ∧ d.content? f.path = some document) ∧
      (done.1.result = .ok () → done.2.disk.content? f.path = some document) ∧
      (m.Willing → checkUnique c.tarballs = .ok () → c.validate = .ok () → f.HasHome m.disk →
        m.disk.Replaceable (f.temporary host) f.path → done.1.result = .ok ()) ∧
      (checkUnique c.tarballs ≠ .ok () ∨ c.validate ≠ .ok () →
        (∃ e, done.1.result = .error e) ∧ done.2 = m) ∧
      (∀ e, done.1.result = .error e → checkUnique c.tarballs = .ok () → c.validate = .ok () →
        (f.prepareDirectory.run m).1.result = .ok () → m.faults[passed.length - 1]?.join = none →
          done.2.disk.content? (f.temporary host) = none) := by
  intro done document
  obtain ⟨passed, htrail, hfirst, hpassed⟩ := persist_passes f host c m
  refine ⟨passed, htrail, ?_, ?_, ?_, content?_persisted, ?_, persist_refused, ?_⟩
  · intro d hd place hl
    rcases List.mem_cons.1 hd with rfl | hd
    · exact Disk.locate_kept hfirst hl
    · exact Disk.locate_kept (hpassed d (List.mem_cons_of_mem _ hd)).1 hl
  · intro place hl d hd
    rcases (hpassed d hd).2 with hkeeps | ⟨hok, rfl⟩
    · exact .inl (hkeeps.files place hl)
    · refine .inr ⟨hok, ?_⟩
      rw [← Disk.content?_of_locate hl]
      exact content?_persisted hok
  · intro hfix d hd
    obtain ⟨hdirs, hkeeps | ⟨hok, rfl⟩⟩ := hpassed d hd
    · refine .inl (hfix.content? hkeeps.directories fun place hl => ?_)
      exact hkeeps.files place (Disk.locate_kept hdirs hl)
    · exact .inr ⟨hok, content?_persisted hok⟩
  · intro hwilling hu hv hhome hreplaceable
    obtain ⟨m', hok, -⟩ := persist_runs hwilling hu hv hhome hreplaceable
    exact hok
  · intro e herror hu hv hprepared hworks
    obtain ⟨k, hk, htemporary⟩ := content?_temporary hu hv hprepared herror
    have hlength : passed.length = k + 1 := by
      rw [htrail, List.length_append] at hk
      omega
    rw [hlength, Nat.add_sub_cancel] at hworks
    exact htemporary hworks

/-- The disk is full after five bytes of the new document. The old one stays,
and what was written of the new one is removed. -/
theorem persist_atomic_full :
    let file : CatalogFile := ⟨⟨"data/catalog.json"⟩⟩
    let host : Host :=
      ⟨.linux, .amd64, 7, ⟨2024, 5, 1, by decide⟩,
        ⟨0, 0, 0, 0, by decide, by decide, by decide, by decide⟩⟩
    let t : Tarball :=
      { name := "a.tar.gz", checksum := "MD5:1", os := "Linux", url := "u", flavor := "mysql",
        shortVersion := "8.0", version := "8.0.1" }
    let disk : Disk :=
      ⟨[(["data"], .directory 0o755), (["data", "catalog.json"], .file [1, 2, 3] 0o644)]⟩
    let done := (file.persist host ⟨"0.5.1", "", [t]⟩).run ⟨disk, [none, some ⟨.noSpace, 5⟩], []⟩
    done.1.result = .error (.disk ⟨"data/catalog.json.7.tmp"⟩ .noSpace) ∧ done.2.trail.length = 3 ∧
      (∀ d ∈ done.2.trail, d.content? file.path = some [1, 2, 3]) ∧
      done.2.disk.content? ⟨"data/catalog.json.7.tmp"⟩ = none := by
  intro file host t disk done
  have herror : done.1.result = .error (.disk ⟨"data/catalog.json.7.tmp"⟩ .noSpace) := by
    decide +kernel
  have hlength : done.2.trail.length = 3 := by decide +kernel
  have hfix : disk.Fixes file.path := .inl ⟨["data", "catalog.json"], by decide +kernel⟩
  obtain ⟨passed, htrail, -, -, hpoints, -, -, -, hclean⟩ :=
    persist_atomic file host ⟨"0.5.1", "", [t]⟩ ⟨disk, [none, some ⟨.noSpace, 5⟩], []⟩
  rw [List.append_nil] at htrail
  refine ⟨herror, hlength, fun d hd => ?_, ?_⟩
  · rw [show done.2.trail = passed from htrail] at hd
    rcases hpoints hfix d (List.mem_cons_of_mem _ hd) with hold | ⟨hok, -⟩
    · exact hold.trans (by decide +kernel)
    · exact nomatch herror.symm.trans hok
  · have htemporary : file.temporary host = ⟨"data/catalog.json.7.tmp"⟩ := by decide +kernel
    rw [show done.2.trail = passed from htrail] at hlength
    rw [← htemporary]
    refine hclean _ herror (by decide +kernel) (by decide +kernel) (by decide +kernel) ?_
    rw [hlength]
    rfl

end CatalogFile

end ReleaseCatalog
