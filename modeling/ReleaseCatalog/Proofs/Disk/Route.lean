import ReleaseCatalog.Proofs.Disk.Frame
import ReleaseCatalog.Proofs.Path

/-!
# Where paths lead

A path leads through directories only, so what it passes on its way stays out of
the way of files.

* `Disk.hasDirectory_of_locate_withEnding`: a path and the same path with
  another ending never lead to one file.
* `Disk.locate_of_isTree`: a path that does not lead upwards leads to a file
  wherever that stands on a disk on which everything stands in directories.
* `Disk.Fixes.content?`: then directories may be made without giving the path
  another content.
-/

namespace ReleaseCatalog.Disk

open Text

variable {d d' : Disk} {place q : Place} {path : Path} {part : List Char} {parts : List (List Char)}
  {ending : String} {n : Node}

/-- Everything above a place is a directory. -/
def Grounded (d : Disk) (place : Place) : Prop :=
  ∀ above, above <+: place → above ≠ place → d.HasDirectory above

theorem grounded_root (d : Disk) : d.Grounded [] :=
  fun _ hpre hne => absurd (List.prefix_nil.1 hpre) hne

/-- What leads on from a place below a directory is below it, too. -/
theorem grounded_concat {name : String} (hd : d.HasDirectory place) (h : d.Grounded place) :
    d.Grounded (place ++ [name]) := by
  intro above hpre hne
  rcases List.prefix_concat_iff.1 hpre with rfl | hpre
  · exact absurd rfl hne
  · by_cases heq : above = place
    · exact heq ▸ hd
    · exact h above hpre heq

theorem hasDirectory_dropLast (h : d.Grounded place) : d.HasDirectory place.dropLast := by
  by_cases hroot : place = []
  · rw [hroot]
    exact d.hasDirectory_root
  · refine h _ (List.dropLast_prefix place) fun heq => ?_
    have hlength := congrArg List.length heq
    rw [List.length_dropLast] at hlength
    have hpos := List.length_pos_iff.2 hroot
    omega

theorem grounded_dropLast (h : d.Grounded place) : d.Grounded place.dropLast := by
  intro above hpre hne
  refine h above (hpre.trans (List.dropLast_prefix place)) ?_
  rintro rfl
  -- only the root is in front of itself without its last name
  have hlength := hpre.length_le
  rw [List.length_dropLast] at hlength
  have hroot : above = [] := List.length_eq_zero_iff.1 (by omega)
  exact hne (by rw [hroot]; rfl)

/-- **Above the place that a path leads to there are directories.** -/
theorem grounded_of_follow (h : d.Grounded place) (hf : d.follow place parts = .ok q) :
    d.Grounded q := by
  induction parts generalizing place with
  | nil => exact Except.ok.inj hf ▸ h
  | cons part parts ih =>
    have hd := hasDirectory_of_follow_cons hf
    rw [follow_cons hd] at hf
    split at hf
    · exact ih h hf
    · split at hf
      · exact ih (grounded_dropLast h) hf
      · split at hf
        · exact nomatch hf
        · exact ih (grounded_concat hd h) hf

/-- A path whose last part is no name leads to a directory. -/
theorem hasDirectory_of_follow_concat (hf : d.follow [] (parts ++ [part]) = .ok q)
    (hpart : Path.isFiller part = true ∨ part = ['.', '.']) : d.HasDirectory q := by
  rw [follow_append, bind_ok_iff] at hf
  obtain ⟨place, hplace, hlast⟩ := hf
  have hd := hasDirectory_of_follow_cons hlast
  have hground := grounded_of_follow d.grounded_root hplace
  rw [follow_cons hd] at hlast
  split at hlast
  · exact Except.ok.inj hlast ▸ hd
  · rename_i hfiller
    rw [if_pos (hpart.resolve_left hfiller)] at hlast
    exact Except.ok.inj hlast ▸ hasDirectory_dropLast hground

/-- A single part leads nowhere, upwards or to what has its name. -/
theorem follow_part_cases (hf : d.follow place [part] = .ok q) :
    q = place ∨ q = place.dropLast ∨ q = place ++ [String.ofList part] := by
  rw [follow_cons (hasDirectory_of_follow_cons hf)] at hf
  split at hf
  · exact .inl (Except.ok.inj hf).symm
  · split at hf
    · exact .inr (.inl (Except.ok.inj hf).symm)
    · split at hf
      · exact nomatch hf
      · exact .inr (.inr (Except.ok.inj hf).symm)

theorem follow_name (hf : d.follow place [part] = .ok q) (hfiller : Path.isFiller part = false)
    (hup : part ≠ ['.', '.']) : q = place ++ [String.ofList part] := by
  rw [follow_cons (hasDirectory_of_follow_cons hf), hfiller, if_neg Bool.false_ne_true,
    if_neg hup] at hf
  split at hf
  · exact nomatch hf
  · exact (Except.ok.inj hf).symm

/-- Nothing but the name itself leads from a place to what has the name there. -/
theorem part_eq_of_follow {part' : List Char} (hf : d.follow place [part] = .ok q)
    (hfiller : Path.isFiller part = false) (hup : part ≠ ['.', '.'])
    (hf' : d.follow place [part'] = .ok q) :
    part' = part := by
  have hplace := follow_name hf hfiller hup
  have hlength := congrArg List.length hplace
  rw [List.length_append, List.length_singleton] at hlength
  rcases follow_part_cases hf' with heq | heq | heq
  · exact absurd (congrArg List.length heq) (by omega)
  · have hlength' := congrArg List.length heq
    rw [List.length_dropLast] at hlength'
    omega
  · have hname := List.append_cancel_left (heq.symm.trans hplace)
    exact String.ofList_injective (List.singleton_inj.1 hname)

theorem locate_parts (h : d.locate path = .ok place) :
    d.follow [] (pieces '/' path.text.toList) = .ok place := by
  obtain ⟨parts, hparts, hf⟩ := bind_ok_iff.1 h
  obtain ⟨-, rfl⟩ := partsOf_ok hparts
  exact hf

/-- **A path and the same path with an ending of several words do not lead to
one file.** Where they lead to one place that is a directory. -/
theorem hasDirectory_of_locate_withEnding (hwords : '.' ∈ ending.toList)
    (hslash : '/' ∉ ending.toList) (h : d.locate path = .ok place)
    (h' : d.locate (path.withEnding ending) = .ok place) : d.HasDirectory place := by
  have hf := locate_parts h
  obtain ⟨front, last, hpieces⟩ :=
    (List.eq_nil_or_concat' (pieces '/' path.text.toList)).resolve_left (pieces_ne_nil _ _)
  rw [hpieces] at hf
  by_cases hfiller : Path.isFiller last = true
  · exact hasDirectory_of_follow_concat hf (.inl hfiller)
  by_cases hup : last = ['.', '.']
  · exact hasDirectory_of_follow_concat hf (.inr hup)
  -- the last part is a name, and the other path has another one in its place
  rw [Bool.not_eq_true] at hfiller
  have hf' := locate_parts h'
  rw [Path.pieces_withEnding hpieces hfiller hup hslash] at hf'
  have hne : path.renamed (String.ofList last) ending ≠ last := by
    have hrenamed : path.renamed (String.ofList last) ending ≠ (String.ofList last).toList :=
      path.renamed_ne (by simpa using hup) hwords
    rwa [String.toList_ofList] at hrenamed
  rw [follow_append, bind_ok_iff] at hf hf'
  obtain ⟨above, habove, hlast⟩ := hf
  obtain ⟨above', habove', hlast'⟩ := hf'
  obtain rfl : above = above' := Except.ok.inj (habove.symm.trans habove')
  exact absurd (part_eq_of_follow hlast hfiller hup hlast') hne

/-- Everything on the disk stands in directories. -/
def IsTree (d : Disk) : Prop := ∀ place n, d.node? place = some n → d.Grounded place

/-- A path that does not lead upwards passes only what is above the place that
it leads to. -/
theorem prefix_of_follow (hf : d.follow place parts = .ok q) (hup : ['.', '.'] ∉ parts) :
    place <+: q := by
  induction parts generalizing place with
  | nil => exact Except.ok.inj hf ▸ List.prefix_rfl
  | cons part parts ih =>
    rw [List.mem_cons, not_or] at hup
    rw [follow_cons (hasDirectory_of_follow_cons hf), if_neg (Ne.symm hup.1)] at hf
    split at hf
    · exact ih hf hup.2
    · split at hf
      · exact nomatch hf
      · exact (List.prefix_append place _).trans (ih hf hup.2)

/-- A path that does not lead upwards leads to a place if what it passes on its
way there is a directory. -/
theorem follow_of_passes (hf : d.follow place parts = .ok q) (hup : ['.', '.'] ∉ parts)
    (hpass : ∀ above, d.HasDirectory above → above <+: q → d'.HasDirectory above) :
    d'.follow place parts = .ok q := by
  induction parts generalizing place with
  | nil => exact hf
  | cons part parts ih =>
    have hd := hasDirectory_of_follow_cons hf
    have hd' := hpass place hd (prefix_of_follow hf hup)
    rw [List.mem_cons, not_or] at hup
    rw [follow_cons hd, if_neg (Ne.symm hup.1)] at hf
    rw [follow_cons hd', if_neg (Ne.symm hup.1)]
    split at hf
    · rename_i hfiller
      rw [if_pos hfiller]
      exact ih hf hup.2
    · rename_i hfiller
      rw [if_neg hfiller]
      split at hf
      · exact nomatch hf
      · rename_i hlong
        rw [if_neg hlong]
        exact ih hf hup.2

/-- **A path that does not lead upwards leads to a file wherever that stands in
a tree.** -/
theorem locate_of_isTree {bytes : List UInt8} {mode : Nat} (htree : d'.IsTree)
    (hup : ['.', '.'] ∉ pieces '/' path.text.toList) (h : d.locate path = .ok place)
    (hfree : ¬ d.HasDirectory place)
    (hn : d'.node? place = some (.file bytes mode)) : d'.locate path = .ok place := by
  obtain ⟨parts, hparts, hf⟩ := bind_ok_iff.1 h
  refine bind_ok_iff.2 ⟨parts, hparts, follow_of_passes hf ?_ fun above habove hpre => ?_⟩
  · rw [(partsOf_ok hparts).2]
    exact hup
  · refine htree place _ hn above hpre ?_
    rintro rfl
    exact hfree habove

/-- Which file the path names does not change when directories are made: it
leads somewhere already, or it does not lead upwards and everything stands in
directories. -/
def Fixes (d : Disk) (path : Path) : Prop :=
  (∃ place, d.locate path = .ok place) ∨ (d.IsTree ∧ ['.', '.'] ∉ pieces '/' path.text.toList)

/-- **A path has the same content for as long as the place has it that it leads
to.** -/
theorem Fixes.content? (hfix : d.Fixes path) (hk : KeepsDirectories d d')
    (h : ∀ place, d'.locate path = .ok place → d'.bytes? place = d.bytes? place) :
    d'.content? path = d.content? path := by
  by_cases hlocated : ∃ place, d.locate path = .ok place
  · obtain ⟨place, hl⟩ := hlocated
    have hl' := locate_kept hk hl
    rw [content?_of_locate hl, content?_of_locate hl', h place hl']
  obtain ⟨htree, hup⟩ := hfix.resolve_left hlocated
  refine Option.ext fun bytes => ⟨fun hread => ?_, fun hread => ?_⟩
  · -- a file that is found now would have been found before
    obtain ⟨place, hl, hb⟩ := content?_eq_some_iff.1 hread
    obtain ⟨mode, hn⟩ := bytes?_eq_some_iff.1 hb
    rw [h place hl] at hb
    obtain ⟨mode', hn'⟩ := bytes?_eq_some_iff.1 hb
    exact absurd ⟨place, locate_of_isTree htree hup hl (not_hasDirectory_of_file hn) hn'⟩ hlocated
  · obtain ⟨place, hl, -⟩ := content?_eq_some_iff.1 hread
    exact absurd ⟨place, hl⟩ hlocated

end ReleaseCatalog.Disk
