import ReleaseCatalog.CatalogFile
import ReleaseCatalog.Proofs.CatalogOrder
import ReleaseCatalog.Proofs.Disk.Machine
import ReleaseCatalog.Proofs.Document
import ReleaseCatalog.Proofs.Uniqueness

/-!
# Writing a catalog and reading it back

A catalog that was written is what is read from the file afterwards, in the
order in which catalogs are kept, and writing what was read leaves the file as
it is (`CatalogFile.open_persist`).

* `CatalogFile.openCatalog_runs`: a file with a valid catalog opens.
* `CatalogFile.runs_persist`: what has been done and checked when a catalog is
  written.
* `CatalogFile.persist_runs`: what suffices for writing a catalog to a willing disk.
-/

namespace ReleaseCatalog

open Operation

/-- The gates of writing accept a catalog in its standard order if they accept
it in any. -/
theorem Catalog.inOrder_ok {c : Catalog} (hu : checkUnique c.tarballs = .ok ())
    (hv : c.validate = .ok ()) :
    checkUnique c.inOrder.tarballs = .ok () ∧ c.inOrder.validate = .ok () := by
  have hp : c.tarballs.Perm c.inOrder.tarballs := (sorted_perm .allFields c.tarballs).symm
  exact ⟨checkUnique_ok_iff.2 ((checkUnique_ok_iff.1 hu).perm hp),
    Catalog.validate_ok_of_perm hv hp⟩

namespace CatalogFile

variable {f : CatalogFile} {host : Host} {c : Catalog} {m m' : Machine} {document : List UInt8}

theorem isThere_runs (h : m.disk.read f.path = .ok document) : f.isThere.Runs m true m :=
  runs_look.2 ⟨Disk.exists?_of_read h, rfl⟩

theorem load_runs (h : m.disk.read f.path = .ok c.bytes) : f.load.Runs m c m := by
  refine runs_bind.2 ⟨true, m, isThere_runs h, ?_⟩
  refine runs_bind.2 ⟨c.bytes, m, runs_see.2 ⟨h, rfl⟩, ?_⟩
  simp only [Catalog.ofBytes?_bytes]
  exact runs_bind.2 ⟨(), m, runs_log.2 rfl, runs_pure.2 ⟨rfl, rfl⟩⟩

/-- **A file that holds the document of a valid catalog opens with that catalog.** -/
theorem openCatalog_runs (h : m.disk.read f.path = .ok c.bytes) (hv : c.validate = .ok ()) :
    f.openCatalog.Runs m c m := by
  refine runs_bind.2 ⟨true, m, isThere_runs h, ?_⟩
  refine runs_bind.2 ⟨c, m, load_runs h, ?_⟩
  refine runs_bind.2 ⟨(), m, runs_ofExcept.2 ⟨hv, rfl⟩, ?_⟩
  exact runs_bind.2 ⟨(), m, runs_log.2 rfl, runs_pure.2 ⟨rfl, rfl⟩⟩

/-- The directory that the file belongs in is there, if its path names one. -/
def HasHome (f : CatalogFile) (d : Disk) : Prop :=
  ∀ directory, f.path.parent?.filter (·.text ≠ "") = some directory → d.isDirectory directory = true

theorem runs_prepareDirectory (h : f.prepareDirectory.Runs m () m') : f.HasHome m'.disk := by
  intro directory hd
  unfold prepareDirectory at h
  rw [hd] at h
  obtain ⟨there, v, hl, h⟩ := runs_bind.1 h
  obtain ⟨rfl, rfl⟩ := runs_look.1 hl
  have hne : directory.text ≠ "" := by simpa using (Option.filter_eq_some_iff.1 hd).2
  split at h
  · obtain ⟨-, rfl⟩ := runs_pure.1 h
    assumption
  · obtain ⟨_, _, -, h⟩ := runs_bind.1 h
    exact isDirectory_of_makeDirectories hne (runs_onDisk.1 h)

theorem prepareDirectory_runs (h : f.HasHome m.disk) : f.prepareDirectory.Runs m () m := by
  unfold prepareDirectory
  cases hd : f.path.parent?.filter (·.text ≠ "") with
  | none => exact runs_pure.2 ⟨rfl, rfl⟩
  | some directory =>
    refine runs_bind.2 ⟨true, m, runs_look.2 ⟨h directory hd, rfl⟩, ?_⟩
    exact runs_pure.2 ⟨rfl, rfl⟩

theorem runs_replace (h : (f.replace host document).Runs m () m') :
    m.disk.Replaceable (f.temporary host) f.path ∧ m.disk.SameDirectories m'.disk ∧
      m'.disk.read f.path = .ok document := by
  obtain ⟨_, _, hwrite, hname⟩ := runs_bind.1 (runs_orElseUndo.1 h)
  obtain ⟨_, m₁, hcreate, hwrite⟩ := completes_bind.1 (runs_onDisk.1 hwrite)
  obtain ⟨_, m₂, happend, hsync⟩ := completes_bind.1 hwrite
  obtain ⟨-, d₁, hc, rfl⟩ := completes_perform.1 hcreate
  obtain ⟨-, d₂, ha, rfl⟩ := completes_perform.1 happend
  obtain ⟨-, d₃, hs, rfl⟩ := completes_perform.1 hsync
  obtain ⟨-, d₄, hr, rfl⟩ := completes_perform.1 (runs_onDisk.1 hname)
  obtain rfl := Disk.act_sync_ok_iff.1 hs
  exact Disk.replaced hc ha hr

theorem replace_runs (document : List UInt8) (hm : m.Willing)
    (h : m.disk.Replaceable (f.temporary host) f.path) :
    ∃ m', (f.replace host document).Runs m () m' := by
  obtain ⟨d₁, d₂, d₃, hc, ha, hr⟩ := h.acts document
  obtain ⟨hc, hm₁⟩ := hm.perform hc
  obtain ⟨ha, hm₂⟩ := hm₁.perform ha
  obtain ⟨hs, hm₃⟩ :=
    hm₂.perform (Disk.act_sync_ok_iff.2 rfl : Disk.act _ (.sync (f.temporary host)) = _)
  obtain ⟨hr, -⟩ := hm₃.perform hr
  refine ⟨_, runs_orElseUndo.2 (runs_bind.2 ⟨(), _, runs_onDisk.2 ?_, runs_onDisk.2 hr⟩)⟩
  exact completes_bind.2 ⟨(), _, hc, completes_bind.2 ⟨(), _, ha, hs⟩⟩

/-- When a catalog was written it was valid, its file holds its document, and
nothing has come to stand in the way of writing it again. -/
theorem runs_persist (h : (f.persist host c).Runs m () m') :
    checkUnique c.tarballs = .ok () ∧ c.validate = .ok () ∧ f.HasHome m'.disk ∧
      m'.disk.Replaceable (f.temporary host) f.path ∧
      m'.disk.read f.path = .ok c.inOrder.bytes := by
  obtain ⟨_, _, hunique, h⟩ := runs_bind.1 h
  obtain ⟨hu, rfl⟩ := runs_ofExcept.1 hunique
  obtain ⟨_, _, hvalid, h⟩ := runs_bind.1 h
  obtain ⟨hv, rfl⟩ := runs_ofExcept.1 hvalid
  obtain ⟨_, m₁, hp, h⟩ := runs_bind.1 h
  obtain ⟨_, m₂, hr, h⟩ := runs_bind.1 h
  obtain rfl := runs_log.1 h
  obtain ⟨hreplaceable, hsame, hread⟩ := runs_replace hr
  have hhome : f.HasHome m₂.disk := fun directory hd =>
    Disk.isDirectory_kept hsame.keeps (runs_prepareDirectory hp directory hd)
  exact ⟨hu, hv, hhome, hreplaceable.same hsame, hread⟩

theorem persist_runs (hm : m.Willing) (hu : checkUnique c.tarballs = .ok ())
    (hv : c.validate = .ok ()) (hhome : f.HasHome m.disk)
    (hr : m.disk.Replaceable (f.temporary host) f.path) :
    ∃ m', (f.persist host c).Runs m () m' := by
  obtain ⟨m', hr⟩ := replace_runs c.inOrder.bytes hm hr
  refine ⟨m', runs_bind.2 ⟨(), m, runs_ofExcept.2 ⟨hu, rfl⟩, ?_⟩⟩
  refine runs_bind.2 ⟨(), m, runs_ofExcept.2 ⟨hv, rfl⟩, ?_⟩
  refine runs_bind.2 ⟨(), m, prepareDirectory_runs hhome, ?_⟩
  exact runs_bind.2 ⟨(), m', hr, runs_log.2 rfl⟩

/-- **A catalog that was written is read back in its standard order, every field
as it was, and writing what was read leaves the document as it is**, byte for
byte. The second writing goes through wherever the disk refuses nothing. -/
theorem open_persist (f : CatalogFile) (host : Host) (c : Catalog) (m : Machine)
    (h : ((f.persist host c).run m).1.result = .ok ()) :
    let written := ((f.persist host c).run m).2
    let kept : Catalog := ⟨c.schemaVersion, c.updatedOn, sorted .allFields c.tarballs⟩
    (f.openCatalog.run written).1.result = .ok kept ∧ (f.openCatalog.run written).2 = written ∧
      written.disk.read f.path = .ok kept.bytes ∧
      ∀ again : Machine, again.disk = written.disk →
        (again.Willing → ((f.persist host kept).run again).1.result = .ok ()) ∧
        (((f.persist host kept).run again).1.result = .ok () →
          ((f.persist host kept).run again).2.disk.read f.path = written.disk.read f.path) := by
  intro written kept
  have hkept : kept = c.inOrder := rfl
  obtain ⟨hu, hv, hhome, hr, hread⟩ := runs_persist (runs_of_ok h)
  -- the gates do not look at the order, so they let pass what was kept
  obtain ⟨hu', hv'⟩ := Catalog.inOrder_ok hu hv
  obtain ⟨hopen, hstay⟩ := openCatalog_runs hread hv'
  refine ⟨hopen, hstay, hread, ?_⟩
  intro again hd
  constructor
  · intro hm
    rw [← hd] at hhome hr
    obtain ⟨m', hok, -⟩ := persist_runs hm hu' hv' hhome hr
    exact hok
  · intro hok
    -- what was kept is in order already, so the second document is the first one
    obtain ⟨-, -, -, -, hread'⟩ := runs_persist (runs_of_ok hok)
    rw [hkept, Catalog.inOrder_inOrder] at hread'
    exact hread'.trans hread.symm

/-- The newer of two tarballs was added first, and the older one has a note full
of escapes. -/
theorem open_persist_pair :
    let file : CatalogFile := ⟨⟨"data/catalog.json"⟩⟩
    let host : Host :=
      ⟨.linux, .amd64, 7, ⟨2024, 5, 1, by decide⟩,
        ⟨0, 0, 0, 0, by decide, by decide, by decide, by decide⟩⟩
    let older : Tarball :=
      { name := "a.tar.gz", checksum := "MD5:1", os := "Linux", url := "u", flavor := "mysql",
        size := -1, shortVersion := "8.0", version := "8.0.1", notes := "\"\\\n\x00é" }
    let newer : Tarball := { older with name := "b.tar.gz", version := "8.0.2", notes := "" }
    let persisted := (file.persist host ⟨"0.5.1", "", [newer, older]⟩).run ⟨{}, [], []⟩
    persisted.1.result = .ok () ∧
      (file.openCatalog.run persisted.2).1.result = .ok ⟨"0.5.1", "", [older, newer]⟩ := by
  intro file host older newer persisted
  have hok : persisted.1.result = .ok () := by decide +kernel
  have hsorted : sorted .allFields [newer, older] = [older, newer] := by
    rw [sorted_pair, if_neg]
    decide +kernel
  refine ⟨hok, ?_⟩
  rw [← hsorted]
  exact (open_persist file host _ _ hok).1

end CatalogFile

end ReleaseCatalog
