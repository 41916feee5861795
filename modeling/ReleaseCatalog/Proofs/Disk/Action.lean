import ReleaseCatalog.Disk.Action
import ReleaseCatalog.Proofs.Disk.Tree

/-!
# What each action does

One lemma for each action says when it succeeds and what the disk is then. From these:

* `Disk.replaced`: a document that was written to a temporary file is read from
  the name that the file is given, and no directory has changed.
* `Disk.Replaceable.acts`: only directories can stand in the way of that.
-/

namespace ReleaseCatalog.Disk

variable {d d' : Disk} {path target : Path}

theorem act_makeDirectory_ok_iff {mode : Nat} :
    d.act (.makeDirectory path mode) = .ok d' ↔
      ∃ above last place, d.locateLast path = .ok (above, last) ∧
        d.follow above [last] = .ok place ∧
        d.node? place = none ∧ d' = d.put place (.directory mode) := by
  simp only [act, bind_ok_iff]
  constructor
  · rintro ⟨⟨above, last⟩, hl, place, hf, h⟩
    split at h
    · exact nomatch h
    · exact ⟨above, last, place, hl, hf, ‹_›, (Except.ok.inj h).symm⟩
  · rintro ⟨above, last, place, hl, hf, hn, rfl⟩
    refine ⟨(above, last), hl, place, hf, ?_⟩
    rw [hn]
    rfl

/-- The permission bits of what is put in place of a file, or of a new one. -/
def modeAt (d : Disk) (place : Place) : Nat := ((d.node? place).map Node.mode).getD fileMode

theorem act_create_ok_iff :
    d.act (.create path) = .ok d' ↔
      path.endsInSlash = false ∧ ∃ place, d.locate path = .ok place ∧ ¬ d.HasDirectory place ∧
        d' = d.put place (.file [] (d.modeAt place)) := by
  simp only [act]
  by_cases hs : path.endsInSlash = true
  · rw [if_pos hs, hs]
    exact iff_of_false (fun h => nomatch h) (fun h => nomatch h.1)
  · rw [if_neg hs, Bool.eq_false_iff.2 hs, bind_ok_iff, and_iff_right rfl]
    refine exists_congr fun place => and_congr_right fun _ => ?_
    unfold modeAt HasDirectory
    cases hn : d.node? place with
    | none => simp [eq_comm (a := d')]
    | some n => cases n <;> simp [Node.mode, eq_comm (a := d')]

theorem act_append_ok_iff {bytes : List UInt8} :
    d.act (.append path bytes) = .ok d' ↔
      ∃ place before mode, d.locate path = .ok place ∧ d.node? place = some (.file before mode) ∧
        d' = d.put place (.file (before ++ bytes) mode) := by
  simp only [act, bind_ok_iff]
  constructor
  · rintro ⟨place, hl, h⟩
    split at h
    · exact ⟨place, _, _, hl, ‹_›, (Except.ok.inj h).symm⟩
    · exact nomatch h
    · exact nomatch h
  · rintro ⟨place, before, mode, hl, hn, rfl⟩
    refine ⟨place, hl, ?_⟩
    rw [hn]
    rfl

theorem act_sync_ok_iff : d.act (.sync path) = .ok d' ↔ d' = d :=
  ⟨fun h => (Except.ok.inj h).symm, fun h => h ▸ rfl⟩

/-- A file can be given the name of the path, and would stand at the place then. -/
structure TakesName (d : Disk) (target : Path) (place : Place) : Prop where
  noSlash : target.endsInSlash = false
  free : ¬ d.HasDirectory place
  leads : ∃ above last, d.locateLast target = .ok (above, last) ∧
    ¬ (Path.isFiller last = true ∨ last = ['.', '.']) ∧ d.follow above [last] = .ok place

theorem act_rename_ok_iff :
    d.act (.rename path target) = .ok d' ↔
      ∃ source n place, d.locate path = .ok source ∧ d.node? source = some n ∧
        d.TakesName target place ∧ d' = (d.erase source).put place n := by
  simp only [act, bind_ok_iff]
  constructor
  · rintro ⟨source, hs, ⟨above, last⟩, hl, h⟩
    by_cases hlast : Path.isFiller last = true ∨ last = ['.', '.']
    · rw [if_pos hlast] at h
      exact nomatch h
    · rw [if_neg hlast] at h
      split at h
      · exact nomatch h
      · rename_i n hn
        obtain ⟨place, hf, h⟩ := bind_ok_iff.1 h
        by_cases hslash : target.endsInSlash = true
        · rw [if_pos hslash] at h
          exact nomatch h
        · rw [if_neg hslash] at h
          split at h
          · exact nomatch h
          · rename_i hfree
            refine ⟨source, n, place, hs, hn,
              ⟨Bool.eq_false_iff.2 hslash, ?_, above, last, hl, hlast, hf⟩, ?_⟩
            · exact fun ⟨mode, hm⟩ => hfree mode hm
            · exact (Except.ok.inj h).symm
  · rintro ⟨source, n, place, hs, hn, ⟨hslash, hfree, above, last, hl, hlast, hf⟩, rfl⟩
    refine ⟨source, hs, (above, last), hl, ?_⟩
    rw [if_neg hlast, hn]
    refine bind_ok_iff.2 ⟨place, hf, ?_⟩
    rw [hslash, if_neg Bool.false_ne_true]
    split
    · exact absurd ⟨_, ‹_›⟩ hfree
    · rfl

theorem act_remove_ok_iff :
    d.act (.remove path) = .ok d' ↔
      ∃ place bytes mode, d.locate path = .ok place ∧ d.node? place = some (.file bytes mode) ∧
        d' = d.erase place := by
  simp only [act, bind_ok_iff]
  constructor
  · rintro ⟨place, hl, h⟩
    split at h
    · exact ⟨place, _, _, hl, ‹_›, (Except.ok.inj h).symm⟩
    · exact nomatch h
    · exact nomatch h
  · rintro ⟨place, bytes, mode, hl, hn, rfl⟩
    refine ⟨place, hl, ?_⟩
    rw [hn]
    rfl

/-- A directory that was made is there. -/
theorem isDirectory_of_act {mode : Nat} (h : d.act (.makeDirectory path mode) = .ok d') :
    KeepsDirectories d d' ∧ d'.isDirectory path = true := by
  obtain ⟨above, last, place, hl, hf, hn, rfl⟩ := act_makeDirectory_ok_iff.1 h
  have hfree : ¬ d.HasDirectory place := by
    rintro ⟨mode', hm⟩
    rw [hn] at hm
    exact nomatch hm
  have hk : KeepsDirectories d (d.put place (.directory mode)) := keepsDirectories_put hfree
  refine ⟨hk, ?_⟩
  have habove := (locate_eq_of_locateLast hl).1
  have hne : last ≠ [] := by
    rintro rfl
    rw [follow_fillers habove (by simp)] at hf
    exact hfree (Except.ok.inj hf ▸ habove)
  -- on the new disk the path leads to the new directory, and slashes behind it stay there
  obtain ⟨fillers, hempty, -, hloc⟩ := (locate_eq_of_locateLast (locateLast_kept hk hl)).2 hne
  have hplace : (d.put place (.directory mode)).HasDirectory place := ⟨mode, node?_put_self hfree⟩
  refine isDirectory_iff.2 ⟨place, ?_, hplace⟩
  rw [hloc, follow_kept hk hf]
  exact follow_fillers hplace hempty

theorem act_create_same (h : d.act (.create path) = .ok d') : SameDirectories d d' := by
  obtain ⟨-, place, -, hfree, rfl⟩ := act_create_ok_iff.1 h
  exact sameDirectories_put _ _ hfree

theorem act_append_same {bytes : List UInt8} (h : d.act (.append path bytes) = .ok d') :
    SameDirectories d d' := by
  obtain ⟨place, before, mode, -, hn, rfl⟩ := act_append_ok_iff.1 h
  exact sameDirectories_put _ _ (not_hasDirectory_of_file hn)

/-- A document can be written at one path and be given the name of another:
nothing but directories decides about that. -/
structure Replaceable (d : Disk) (temporary target : Path) : Prop where
  noSlash : temporary.endsInSlash = false
  opens : ∃ source, d.locate temporary = .ok source ∧ ¬ d.HasDirectory source
  takes : ∃ place, d.TakesName target place

variable {temporary : Path} {d₁ d₂ : Disk} {document : List UInt8}

theorem TakesName.same {place : Place} (hs : SameDirectories d d') (h : d.TakesName target place) :
    d'.TakesName target place := by
  obtain ⟨hslash, hfree, above, last, hl, hlast, hf⟩ := h
  exact ⟨hslash, mt (hs place).2 hfree, above, last, locateLast_kept hs.keeps hl, hlast,
    follow_kept hs.keeps hf⟩

theorem Replaceable.same (hs : SameDirectories d d') (h : d.Replaceable temporary target) :
    d'.Replaceable temporary target := by
  obtain ⟨hslash, ⟨source, hl, hfree⟩, place, ht⟩ := h
  exact ⟨hslash, ⟨source, locate_kept hs.keeps hl, mt (hs source).2 hfree⟩, place, ht.same hs⟩

/-- A path that a file can take the name of leads to the place where the file
stands then. -/
theorem TakesName.locate {place : Place} (h : d.TakesName target place) :
    d.locate target = .ok place := by
  obtain ⟨hslash, -, above, last, hl, hlast, hf⟩ := h
  have hne : last ≠ [] := by
    rintro rfl
    exact hlast (.inl rfl)
  obtain ⟨fillers, -, hnil, hloc⟩ := (locate_eq_of_locateLast hl).2 hne
  rw [hloc, hf, hnil hslash]
  rfl

/-- **Writing a document and giving it a name changes no directory, and the
document is read from that name.** -/
theorem replaced (hc : d.act (.create temporary) = .ok d₁)
    (ha : d₁.act (.append temporary document) = .ok d₂)
    (hr : d₂.act (.rename temporary target) = .ok d') :
    d.Replaceable temporary target ∧ SameDirectories d d' ∧ d'.read target = .ok document := by
  have h₁ := act_create_same hc
  have h₂ := h₁.trans (act_append_same ha)
  obtain ⟨hslash, source, hl, hfree, rfl⟩ := act_create_ok_iff.1 hc
  obtain ⟨source₁, before, mode, hl₁, hn₁, rfl⟩ := act_append_ok_iff.1 ha
  obtain ⟨source₂, n, place, hl₂, hn₂, ht, rfl⟩ := act_rename_ok_iff.1 hr
  -- the temporary path leads to the same place each time, since no directory has changed
  obtain rfl : source = source₁ := Except.ok.inj ((locate_kept h₁.keeps hl).symm.trans hl₁)
  obtain rfl : source = source₂ := Except.ok.inj ((locate_kept h₂.keeps hl).symm.trans hl₂)
  rw [node?_put_self hfree] at hn₁
  cases hn₁
  rw [node?_put_self (mt (h₁ source).2 hfree)] at hn₂
  cases hn₂
  have h₃ := h₂.trans (sameDirectories_erase (mt (h₂ source).2 hfree))
  have hplace := mt (h₃ place).2 (mt (h₂ place).1 ht.free)
  have h₄ := h₃.trans (sameDirectories_put ([] ++ document) (d.modeAt source) hplace)
  refine ⟨⟨hslash, ⟨source, hl, hfree⟩, place, ht.same h₂.symm⟩, h₄, ?_⟩
  have hlast := (ht.same (h₂.symm.trans h₄)).locate
  exact read_ok_iff.2 ⟨place, _, hlast, node?_put_self hplace⟩

/-- Where nothing stands in the way a document can be replaced. -/
theorem Replaceable.acts (h : d.Replaceable temporary target) (document : List UInt8) :
    ∃ d₁ d₂ d', d.act (.create temporary) = .ok d₁ ∧ d₁.act (.append temporary document) = .ok d₂ ∧
      d₂.act (.rename temporary target) = .ok d' := by
  obtain ⟨hslash, ⟨source, hl, hfree⟩, place, ht⟩ := h
  have hc := act_create_ok_iff.2 ⟨hslash, source, hl, hfree, rfl⟩
  have h₁ := act_create_same hc
  have hfree₁ := mt (h₁ source).2 hfree
  have ha : Disk.act _ (.append temporary document) = _ :=
    act_append_ok_iff.2 ⟨source, [], _, locate_kept h₁.keeps hl, node?_put_self hfree, rfl⟩
  have h₂ := h₁.trans (act_append_same ha)
  have hr := act_rename_ok_iff.2
    ⟨source, _, place, locate_kept h₂.keeps hl, node?_put_self hfree₁, ht.same h₂, rfl⟩
  exact ⟨_, _, _, hc, ha, hr⟩

end ReleaseCatalog.Disk
