import ReleaseCatalog.Proofs.Acceptance

/-!
# One document for one set of tarballs

The standard order goes by the name last, and no two tarballs of a catalog share
that. So it leaves no two tarballs in the order in which they happened to come,
and the document tells of no such order.

* `sorted_allFields_perm`: tarballs with distinct names are sorted alike,
  whatever order they are in.
* `Catalog.bytes_inOrder_iff`: two catalogs have one document exactly if they
  say the same.
* `CatalogFile.persist_orderless`: so much for what is written, at every step of
  the writing.
-/

namespace ReleaseCatalog

open Operation Std

variable {t u : Tarball} {l l' : List Tarball} {c c' : Catalog}

/-- What the standard order does not tell apart has one name. -/
theorem SortKey.name_eq_of_compare (h : compare .allFields t u = .eq) : t.name = u.name := by
  unfold compare at h
  obtain ⟨-, h⟩ := Ordering.then_eq_eq.1 h
  obtain ⟨-, h⟩ := Ordering.then_eq_eq.1 h
  obtain ⟨-, h⟩ := Ordering.then_eq_eq.1 h
  obtain ⟨-, hname⟩ := Ordering.then_eq_eq.1 h
  exact Std.compare_eq_iff_eq.1 hname

/-- **Tarballs of distinct names have one standard order.** Two versions may be
equal as versions and differ as texts, which is why the names have to decide. -/
theorem sorted_allFields_perm (h : (l.map (·.name)).Nodup) (hp : l'.Perm l) :
    sorted .allFields l' = sorted .allFields l := by
  have hsame : (sorted .allFields l').Perm (sorted .allFields l) :=
    (sorted_perm .allFields l').trans (hp.trans (sorted_perm .allFields l).symm)
  refine List.Perm.eq_of_pairwise ?_ (sorted_pairwise .allFields l')
    (sorted_pairwise .allFields l) hsame
  intro t u ht hu htu hut
  -- each is not after the other, so only the name is left to tell them apart
  have hname := SortKey.name_eq_of_compare (OrientedCmp.isLE_antisymm htu hut)
  have htl : t ∈ l := hp.mem_iff.1 ((sorted_perm .allFields l').mem_iff.1 ht)
  have hul : u ∈ l := (sorted_perm .allFields l).mem_iff.1 hu
  exact List.inj_on_of_nodup_map h htl hul hname

namespace Catalog

/-- A document says all that its catalog says. -/
theorem bytes_inj : c.bytes = c'.bytes ↔ c = c' := by
  constructor
  · intro h
    have hread := ofBytes?_bytes c
    rw [h, ofBytes?_bytes] at hread
    exact (Option.some.inj hread).symm
  · intro h
    rw [h]

theorem inOrder_perm (h : Distinct c.tarballs) (hp : l.Perm c.tarballs) :
    ({ c with tarballs := l } : Catalog).inOrder = c.inOrder := by
  unfold inOrder
  rw [sorted_allFields_perm h.names_nodup hp]

/-- Catalogs that say the same, if they repeat nothing, differ in the order of
the tarballs alone. -/
theorem perm_of_mem_iff (h : Distinct c.tarballs) (h' : Distinct c'.tarballs)
    (hmem : ∀ t, t ∈ c'.tarballs ↔ t ∈ c.tarballs) : c'.tarballs.Perm c.tarballs :=
  (List.perm_ext_iff_of_nodup h'.nodup h.nodup).2 hmem

/-- **Two catalogs have one document exactly if they say the same**, in whatever
order. -/
theorem bytes_inOrder_iff (h : Distinct c.tarballs) (h' : Distinct c'.tarballs) :
    c'.inOrder.bytes = c.inOrder.bytes ↔
      c'.schemaVersion = c.schemaVersion ∧ c'.updatedOn = c.updatedOn ∧
      ∀ t, t ∈ c'.tarballs ↔ t ∈ c.tarballs := by
  rw [bytes_inj]
  constructor
  · intro heq
    have hschema : c'.inOrder.schemaVersion = c.inOrder.schemaVersion := by rw [heq]
    have hupdated : c'.inOrder.updatedOn = c.inOrder.updatedOn := by rw [heq]
    have htarballs : sorted .allFields c'.tarballs = sorted .allFields c.tarballs :=
      congrArg tarballs heq
    refine ⟨hschema, hupdated, fun t => ?_⟩
    rw [← (sorted_perm .allFields c'.tarballs).mem_iff, htarballs,
      (sorted_perm .allFields c.tarballs).mem_iff]
  · rintro ⟨hschema, hupdated, hmem⟩
    have hsorted := sorted_allFields_perm h.names_nodup (perm_of_mem_iff h h' hmem)
    unfold inOrder
    rw [hschema, hupdated, hsorted]

end Catalog

namespace CatalogFile

variable {f : CatalogFile} {host : Host} {m : Machine}

/-- Where the document is the same, so is all that the writing of it does. -/
theorem persist_perm (h : c.Writable) (hp : l.Perm c.tarballs) :
    f.persist host { c with tarballs := l } = f.persist host c := by
  obtain ⟨hunique, hvalid⟩ := h
  have hunique' := (Catalog.checkUnique_ok_perm hp).2 hunique
  have hvalid' := (Catalog.validate_ok_perm hp).2 hvalid
  have hdocument := Catalog.inOrder_perm (checkUnique_ok_iff.1 hunique) hp
  unfold persist
  rw [hunique, hvalid, hunique', hvalid', hdocument, hp.length_eq]

theorem read_persisted (h : ((f.persist host c).run m).1.result = .ok ()) :
    c.Writable ∧ ((f.persist host c).run m).2.disk.read f.path = .ok c.inOrder.bytes := by
  obtain ⟨hunique, hvalid, -, -, hread⟩ := runs_persist (runs_of_ok h)
  exact ⟨⟨hunique, hvalid⟩, hread⟩

/-- **What is written depends on the set of the tarballs alone, not on their order.**

To write the tarballs of a catalog in another order is to do the same on every
machine, whatever the disk refuses. Two catalogs that were written anywhere have
left the same bytes exactly if they are of one version of the tool, of one date,
and have the same tarballs. -/
theorem persist_orderless (c : Catalog) (h : c.Writable) :
    (∀ l : List Tarball, l.Perm c.tarballs → ∀ (f : CatalogFile) (host : Host) (m : Machine),
      (f.persist host { c with tarballs := l }).run m = (f.persist host c).run m) ∧
    ∀ (f f' : CatalogFile) (host host' : Host) (m m' : Machine) (c' : Catalog),
      let written := (f.persist host c).run m
      let written' := (f'.persist host' c').run m'
      written.1.result = .ok () → written'.1.result = .ok () →
        (written'.2.disk.read f'.path = written.2.disk.read f.path ↔
          c'.schemaVersion = c.schemaVersion ∧ c'.updatedOn = c.updatedOn ∧
            ∀ t, t ∈ c'.tarballs ↔ t ∈ c.tarballs) := by
  constructor
  · intro l hp f host m
    rw [persist_perm h hp]
  · intro f f' host host' m m' c' written written' hok hok'
    obtain ⟨⟨hunique, -⟩, hread⟩ := read_persisted hok
    obtain ⟨⟨hunique', -⟩, hread'⟩ := read_persisted hok'
    rw [hread, hread', Except.ok.injEq]
    exact Catalog.bytes_inOrder_iff (checkUnique_ok_iff.1 hunique) (checkUnique_ok_iff.1 hunique')

/-- Two texts of one version, added in one order, and then the first of them
removed and added again: the document stays as it is. -/
theorem persist_orderless_edited :
    let file : CatalogFile := ⟨⟨"catalog.json"⟩⟩
    let host : Host :=
      ⟨.linux, .amd64, 7, ⟨2024, 5, 1, by decide⟩,
        ⟨0, 0, 0, 0, by decide, by decide, by decide, by decide⟩⟩
    let short : Tarball :=
      { name := "b.tar.gz", checksum := "MD5:1", os := "Linux", url := "u", flavor := "mysql",
        shortVersion := "8", version := "8.0" }
    let long : Tarball := { short with name := "a.tar.gz", version := "8.00" }
    let c := Catalog.fresh.edited [.add short, .add long]
    let c' := c.edited [.remove short.name, .add short]
    let m : Machine := ⟨{}, [], []⟩
    c'.tarballs ≠ c.tarballs ∧
      ((file.persist host c').run m).2.disk.read file.path =
        ((file.persist host c).run m).2.disk.read file.path := by
  intro file host short long c c' m
  have htarballs : c.tarballs = [short, long] := by decide +kernel
  have htarballs' : c'.tarballs = [long, short] := by decide +kernel
  have hok : ((file.persist host c).run m).1.result = .ok () := by decide +kernel
  have hok' : ((file.persist host c').run m).1.result = .ok () := by decide +kernel
  have hwritable : c.Writable := (read_persisted hok).1
  refine ⟨by rw [htarballs, htarballs']; decide +kernel, ?_⟩
  refine ((persist_orderless c hwritable).2 file file host host m m c' hok hok').2
    ⟨by decide +kernel, by decide +kernel, ?_⟩
  rw [htarballs, htarballs']
  intro t
  exact (List.Perm.swap short long []).mem_iff

end CatalogFile

end ReleaseCatalog
