import ReleaseCatalog.Proofs.Atomicity

/-!
# What may be written and what may be opened

A catalog is checked twice, before it is written and when the file is opened, by two
scans of their own and on lists of different order. Both accept the same catalogs.

* `Tarball.issues_nil_iff`: nothing is wrong with a tarball exactly if no field
  that it needs is empty.
* `CatalogFile.openCatalog_result`: opening a file that holds a document is the
  check of its catalog.
* `CatalogFile.persist_ok_iff`: where the disk does not stand in the way, the
  checks alone decide.
* `CatalogFile.opens_iff_writable`: what is written opens, and what opens may be
  written.
-/

namespace ReleaseCatalog

open Operation

/-- Every field that a tarball needs has a value. -/
structure Tarball.Complete (t : Tarball) : Prop where
  name : t.name ≠ ""
  url : t.url ≠ ""
  shortVersion : t.shortVersion ≠ ""
  version : t.version ≠ ""
  os : t.os ≠ ""
  checksum : t.checksum ≠ "" ∨ t.flavor = "tidb"

variable {t : Tarball} {c : Catalog} {l : List Tarball}

theorem Tarball.lacksChecksum_eq_false_iff :
    t.lacksChecksum = false ↔ t.checksum ≠ "" ∨ t.flavor = "tidb" := by
  rw [lacksChecksum, Bool.and_eq_false_iff, decide_eq_false_iff_not,
    decide_eq_false_iff_not, not_not]
  exact Iff.rfl

/-- **Nothing is wrong with a tarball exactly if every field that it needs has a
value.** -/
theorem Tarball.issues_nil_iff : t.issues = [] ↔ t.Complete := by
  have hnone : t.issues = [] ↔
      t.name ≠ "" ∧ t.url ≠ "" ∧ t.shortVersion ≠ "" ∧ t.version ≠ "" ∧ t.os ≠ "" ∧
        t.lacksChecksum = false := by
    unfold issues
    simp [List.filterMap_eq_nil_iff]
  rw [hnone, lacksChecksum_eq_false_iff]
  constructor
  · rintro ⟨hname, hurl, hshort, hversion, hos, hchecksum⟩
    exact ⟨hname, hurl, hshort, hversion, hos, hchecksum⟩
  · rintro ⟨hname, hurl, hshort, hversion, hos, hchecksum⟩
    exact ⟨hname, hurl, hshort, hversion, hos, hchecksum⟩

namespace Catalog

/-- The checks before the writing of a catalog accept it. -/
def Writable (c : Catalog) : Prop := checkUnique c.tarballs = .ok () ∧ c.validate = .ok ()

/-- Of the two checks the second one is the stricter. -/
theorem writable_iff_validate : c.Writable ↔ c.validate = .ok () := by
  constructor
  · exact And.right
  · intro h
    obtain ⟨-, hdistinct, -⟩ := validate_ok_iff.1 h
    exact ⟨checkUnique_ok_iff.2 hdistinct, h⟩

theorem checkUnique_ok_perm {l' : List Tarball} (hp : l.Perm l') :
    checkUnique l = .ok () ↔ checkUnique l' = .ok () := by
  rw [checkUnique_ok_iff, checkUnique_ok_iff]
  exact ⟨fun h => h.perm hp, fun h => h.perm hp.symm⟩

/-- **No order of the tarballs is refused if another one is accepted.** -/
theorem validate_ok_perm (hp : l.Perm c.tarballs) :
    ({ c with tarballs := l } : Catalog).validate = .ok () ↔ c.validate = .ok () := by
  constructor
  · intro h
    exact validate_ok_of_perm (c := ⟨c.schemaVersion, c.updatedOn, l⟩) h hp
  · intro h
    exact validate_ok_of_perm h hp.symm

theorem writable_inOrder : c.inOrder.Writable ↔ c.Writable := by
  rw [writable_iff_validate, writable_iff_validate]
  exact validate_ok_perm (sorted_perm .allFields c.tarballs)

theorem validate_fresh : fresh.validate = .ok () := by decide

end Catalog

namespace CatalogFile

variable {f : CatalogFile} {host : Host} {m : Machine}

/-- **Opening a file that holds the document of a catalog comes to the check of
that catalog.** -/
theorem openCatalog_result (h : m.disk.read f.path = .ok c.bytes) :
    (f.openCatalog.run m).1.result = c.validate.map fun _ => c := by
  unfold openCatalog
  rw [(isThere_runs h).result_bind, if_pos rfl, (load_runs h).result_bind]
  cases c.validate <;> rfl

/-- **What opens is valid**, whether there is a file or not. -/
theorem validate_of_openCatalog (h : (f.openCatalog.run m).1.result = .ok c) :
    c.validate = .ok () := by
  obtain ⟨there, m₁, -, h⟩ := runs_bind.1 (runs_of_ok h)
  cases there with
  | false =>
    obtain ⟨_, _, -, h⟩ := runs_bind.1 h
    obtain ⟨rfl, -⟩ := runs_pure.1 h
    exact Catalog.validate_fresh
  | true =>
    obtain ⟨loaded, m₂, -, h⟩ := runs_bind.1 h
    obtain ⟨_, _, hvalid, h⟩ := runs_bind.1 h
    obtain ⟨_, _, -, h⟩ := runs_bind.1 h
    obtain ⟨rfl, -⟩ := runs_pure.1 h
    exact (runs_ofExcept.1 hvalid).1

/-- **Where the disk refuses nothing the checks alone decide whether a catalog
is written.** -/
theorem persist_ok_iff (hm : m.Willing) (hhome : f.HasHome m.disk)
    (hr : m.disk.Replaceable (f.temporary host) f.path) :
    ((f.persist host c).run m).1.result = .ok () ↔ c.Writable := by
  constructor
  · intro h
    obtain ⟨hunique, hvalid, -⟩ := runs_persist (runs_of_ok h)
    exact ⟨hunique, hvalid⟩
  · rintro ⟨hunique, hvalid⟩
    obtain ⟨m', hok, -⟩ := persist_runs hm hunique hvalid hhome hr
    exact hok

/-- What was written opens, with the tarballs in their standard order. -/
theorem openCatalog_of_persist (h : ((f.persist host c).run m).1.result = .ok ()) :
    (f.openCatalog.run ((f.persist host c).run m).2).1.result = .ok c.inOrder := by
  obtain ⟨hunique, hvalid, -, -, hread⟩ := runs_persist (runs_of_ok h)
  obtain ⟨-, hvalid'⟩ := Catalog.inOrder_ok hunique hvalid
  rw [openCatalog_result hread, hvalid']
  rfl

/-- A file with the document of a catalog opens or not, as the checks before the
writing say. -/
theorem openCatalog_cases (h : m.disk.read f.path = .ok c.inOrder.bytes) :
    c.Writable ∧ (f.openCatalog.run m).1.result = .ok c.inOrder ∨
      ¬ c.Writable ∧ ∃ e, (f.openCatalog.run m).1.result = .error e := by
  rw [← Catalog.writable_inOrder, Catalog.writable_iff_validate, openCatalog_result h]
  cases c.inOrder.validate with
  | ok _ => exact .inl ⟨rfl, rfl⟩
  | error e => exact .inr ⟨fun hok => (nomatch hok), e, rfl⟩

/-- **A catalog may be written exactly if what is written opens.**

The check of a whole catalog accepts it if the version of the tool is there,
nothing repeats and no tarball lacks a field; the order of the tarballs does not
matter to it. What fails the checks before the writing is not written and would
not open; what passes them is written wherever the disk allows it, and opens.
Whatever opens passes them again. -/
theorem opens_iff_writable (c : Catalog) :
    (c.validate = .ok () ↔
      c.schemaVersion ≠ "" ∧ checkUnique c.tarballs = .ok () ∧ ∀ t ∈ c.tarballs, t.Complete) ∧
    (∀ l : List Tarball, l.Perm c.tarballs →
      (({ c with tarballs := l } : Catalog).validate = .ok () ↔ c.validate = .ok ())) ∧
    (∀ (f : CatalogFile) (m : Machine), m.disk.read f.path = .ok c.inOrder.bytes →
      c.Writable ∧ (f.openCatalog.run m).1.result = .ok c.inOrder ∨
        ¬ c.Writable ∧ ∃ e, (f.openCatalog.run m).1.result = .error e) ∧
    (∀ (f : CatalogFile) (host : Host) (m : Machine), ((f.persist host c).run m).1.result = .ok () →
      (f.openCatalog.run ((f.persist host c).run m).2).1.result = .ok c.inOrder) ∧
    (∀ (f : CatalogFile) (m : Machine), (f.openCatalog.run m).1.result = .ok c → c.Writable) ∧
    (¬ c.Writable → ∀ (f : CatalogFile) (host : Host) (m : Machine),
      (∃ e, ((f.persist host c).run m).1.result = .error e) ∧ ((f.persist host c).run m).2 = m) ∧
    ∀ (f : CatalogFile) (host : Host) (m : Machine), m.Willing → f.HasHome m.disk →
      m.disk.Replaceable (f.temporary host) f.path →
        (((f.persist host c).run m).1.result = .ok () ↔ c.Writable) := by
  refine ⟨?_, fun l hp => Catalog.validate_ok_perm hp, fun f m => openCatalog_cases,
    fun f host m => openCatalog_of_persist, ?_, ?_, fun f host m => persist_ok_iff⟩
  · rw [Catalog.validate_ok_iff, checkUnique_ok_iff]
    simp only [Tarball.issues_nil_iff]
  · intro f m hopen
    exact Catalog.writable_iff_validate.2 (validate_of_openCatalog hopen)
  · intro hrefused f host m
    exact persist_refused (not_and_or.1 hrefused)

/-- Two tarballs out of order, one of a flavor without checksums: the catalog
may be written, and its document opens. -/
theorem opens_iff_writable_pair :
    let file : CatalogFile := ⟨⟨"data/catalog.json"⟩⟩
    let older : Tarball :=
      { name := "b.tar.gz", checksum := "MD5:1", os := "Linux", url := "u", flavor := "mysql",
        shortVersion := "8.0", version := "8.0.1" }
    let newer : Tarball :=
      { older with name := "a.tar.gz", checksum := "", flavor := "tidb", version := "8.0.2" }
    let c : Catalog := ⟨"0.5.1", "", [newer, older]⟩
    let m : Machine :=
      ⟨⟨[(["data"], .directory 0o755), (["data", "catalog.json"], .file c.inOrder.bytes 0o644)]⟩,
        [], []⟩
    c.tarballs ≠ c.inOrder.tarballs ∧ c.Writable ∧
    (file.openCatalog.run m).1.result = .ok c.inOrder := by
  intro file older newer c m
  have hsorted : c.inOrder.tarballs = [older, newer] := by
    show sorted .allFields [newer, older] = _
    rw [sorted_pair, if_neg]
    decide +kernel
  have hread : m.disk.read file.path = .ok c.inOrder.bytes :=
    Disk.read_ok_iff.2 ⟨["data", "catalog.json"], 0o644, by decide +kernel, rfl⟩
  obtain ⟨hvalid, -, hcases, -, -, -, -⟩ := opens_iff_writable c
  have hwritable : c.Writable := by
    refine Catalog.writable_iff_validate.2 (hvalid.2 ⟨by decide, by decide +kernel, ?_⟩)
    intro t ht
    refine Tarball.issues_nil_iff.1 ?_
    revert t
    decide +kernel
  refine ⟨by rw [hsorted]; decide +kernel, hwritable, ?_⟩
  rcases hcases file m hread with ⟨-, hopen⟩ | ⟨hno, -⟩
  · exact hopen
  · exact absurd hwritable hno

end CatalogFile

end ReleaseCatalog
