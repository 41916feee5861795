import Mathlib.Data.Set.Defs
import ReleaseCatalog.Proofs.Disk.Action

/-!
# What an action leaves alone

* `Disk.Keeps`: making a directory changes no file, wherever that is.
* `Disk.Spares`: opening, writing and removing a file changes no other file, and
  no directory.
-/

namespace ReleaseCatalog.Disk

variable {d d' d'' : Disk} {path : Path} {p q place : Place} {n : Node} {bytes : List UInt8}

/-- The bytes of the file at a place. -/
def bytes? (d : Disk) (place : Place) : Option (List UInt8) :=
  match d.node? place with
  | some (.file bytes _) => some bytes
  | _ => none

theorem bytes?_eq_some_iff :
    d.bytes? place = some bytes ↔ ∃ mode, d.node? place = some (.file bytes mode) := by
  unfold bytes?
  split
  · rename_i bytes' mode hn
    rw [hn]
    simp
  · rename_i hn
    exact iff_of_false (fun h => nomatch h) fun ⟨mode, hm⟩ => hn bytes mode hm

theorem bytes?_of_hasDirectory (h : d.HasDirectory place) : d.bytes? place = none := by
  obtain ⟨mode, hm⟩ := h
  unfold bytes?
  rw [hm]

/-- The bytes that are read from a path are those at the place that it names. -/
theorem read_ok_iff_bytes? :
    d.read path = .ok bytes ↔ ∃ place, d.locate path = .ok place ∧ d.bytes? place = some bytes := by
  simp only [read_ok_iff, bytes?_eq_some_iff, exists_and_left]

/-- The bytes of the file that a path names, if it names one. -/
def content? (d : Disk) (path : Path) : Option (List UInt8) := (d.read path).toOption

theorem content?_eq_some_iff :
    d.content? path = some bytes ↔
      ∃ place, d.locate path = .ok place ∧ d.bytes? place = some bytes := by
  rw [← read_ok_iff_bytes?]
  unfold content?
  cases d.read path with
  | error cause => exact iff_of_false (fun h => nomatch h) (fun h => nomatch h)
  | ok read => simp [Except.toOption]

theorem content?_of_locate (h : d.locate path = .ok place) : d.content? path = d.bytes? place := by
  refine Option.ext fun bytes => content?_eq_some_iff.trans ?_
  constructor
  · rintro ⟨place', hl, hb⟩
    obtain rfl : place = place' := Except.ok.inj (h.symm.trans hl)
    exact hb
  · exact fun hb => ⟨place, h, hb⟩

theorem bytes?_put_of_ne (h : q ≠ p) : (d.put p n).bytes? q = d.bytes? q := by
  unfold bytes?
  rw [node?_put, if_neg h, ite_self]

theorem bytes?_erase_of_ne (h : q ≠ p) : (d.erase p).bytes? q = d.bytes? q := by
  unfold bytes?
  rw [node?_erase, if_neg h, ite_self]

/-- Every directory of the disk is one on the other disk, and the files at some
places are the same. -/
structure Keeps (places : Set Place) (d d' : Disk) : Prop where
  directories : KeepsDirectories d d'
  files : ∀ place ∈ places, d'.bytes? place = d.bytes? place

theorem Keeps.refl (places : Set Place) (d : Disk) : Keeps places d d := ⟨.refl d, fun _ _ => rfl⟩

theorem Keeps.trans {places : Set Place} (h : Keeps places d d') (h' : Keeps places d' d'') :
    Keeps places d d'' :=
  ⟨h.directories.trans h'.directories, fun place hp => (h'.files place hp).trans (h.files place hp)⟩

/-- A directory is made where nothing stands, so no file gives way to it. -/
theorem keeps_of_makeDirectory {mode : Nat} (places : Set Place)
    (h : d.act (.makeDirectory path mode) = .ok d') :
    Keeps places d d' := by
  refine ⟨(isDirectory_of_act h).1, fun q _ => ?_⟩
  obtain ⟨-, -, place, -, -, hn, rfl⟩ := act_makeDirectory_ok_iff.1 h
  by_cases hq : q = place
  · subst hq
    have hfree : ¬ d.HasDirectory q := by
      rintro ⟨mode', hm⟩
      exact nomatch hn.symm.trans hm
    unfold bytes?
    rw [node?_put_self hfree, hn]
  · exact bytes?_put_of_ne hq

/-- The two disks differ at most in the file that the path names. -/
structure Spares (path : Path) (d d' : Disk) : Prop where
  directories : SameDirectories d d'
  files : ∀ place, d.locate path ≠ .ok place → d'.bytes? place = d.bytes? place

theorem Spares.refl (path : Path) (d : Disk) : Spares path d d := ⟨fun _ => Iff.rfl, fun _ _ => rfl⟩

theorem SameDirectories.locate_iff (h : SameDirectories d d') :
    d.locate path = .ok place ↔ d'.locate path = .ok place :=
  ⟨locate_kept h.keeps, locate_kept h.symm.keeps⟩

theorem Spares.trans (h : Spares path d d') (h' : Spares path d' d'') : Spares path d d'' := by
  refine ⟨h.directories.trans h'.directories, fun place hne => ?_⟩
  rw [h'.files place (mt h.directories.locate_iff.2 hne), h.files place hne]

theorem spares_put {mode : Nat} (hl : d.locate path = .ok p) (hfree : ¬ d.HasDirectory p) :
    Spares path d (d.put p (.file bytes mode)) := by
  refine ⟨sameDirectories_put bytes mode hfree, fun q hq => bytes?_put_of_ne ?_⟩
  rintro rfl
  exact hq hl

theorem spares_erase (hl : d.locate path = .ok p) (hfree : ¬ d.HasDirectory p) :
    Spares path d (d.erase p) := by
  refine ⟨sameDirectories_erase hfree, fun q hq => bytes?_erase_of_ne ?_⟩
  rintro rfl
  exact hq hl

theorem spares_of_create (h : d.act (.create path) = .ok d') : Spares path d d' := by
  obtain ⟨-, place, hl, hfree, rfl⟩ := act_create_ok_iff.1 h
  exact spares_put hl hfree

theorem spares_of_append (h : d.act (.append path bytes) = .ok d') : Spares path d d' := by
  obtain ⟨place, before, mode, hl, hn, rfl⟩ := act_append_ok_iff.1 h
  exact spares_put hl (not_hasDirectory_of_file hn)

theorem spares_of_sync (h : d.act (.sync path) = .ok d') : Spares path d d' := by
  obtain rfl := act_sync_ok_iff.1 h
  exact .refl path d'

theorem spares_of_remove (h : d.act (.remove path) = .ok d') : Spares path d d' := by
  obtain ⟨place, bytes, mode, hl, hn, rfl⟩ := act_remove_ok_iff.1 h
  exact spares_erase hl (not_hasDirectory_of_file hn)

/-- **A path from which a file was removed names none.** -/
theorem content?_removed (h : d.act (.remove path) = .ok d') : d'.content? path = none := by
  refine Option.eq_none_iff_forall_ne_some.2 fun bytes hread => ?_
  have hs := (spares_of_remove h).directories
  obtain ⟨place, before, mode, hl, hn, rfl⟩ := act_remove_ok_iff.1 h
  -- the directories are the same, so the path leads to the place that is empty now
  obtain ⟨place', hl', hb⟩ := content?_eq_some_iff.1 hread
  obtain rfl : place = place' := Except.ok.inj (hl.symm.trans (hs.locate_iff.2 hl'))
  obtain ⟨mode', hn'⟩ := bytes?_eq_some_iff.1 hb
  have hroot : place ≠ [] := by
    rintro rfl
    exact not_hasDirectory_of_file hn d.hasDirectory_root
  rw [node?_erase, if_neg hroot, if_pos rfl] at hn'
  exact nomatch hn'

/-- What a disk does not remove is no file. -/
theorem content?_of_not_removed {cause : DiskError} (h : d.act (.remove path) = .error cause) :
    d.content? path = none := by
  refine Option.eq_none_iff_forall_ne_some.2 fun bytes hread => ?_
  obtain ⟨place, hl, hb⟩ := content?_eq_some_iff.1 hread
  obtain ⟨mode, hn⟩ := bytes?_eq_some_iff.1 hb
  have hok := act_remove_ok_iff.2 ⟨place, bytes, mode, hl, hn, rfl⟩
  exact nomatch h.symm.trans hok

end ReleaseCatalog.Disk
