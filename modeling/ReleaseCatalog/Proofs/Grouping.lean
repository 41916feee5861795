import ReleaseCatalog.Proofs.Sorting

/-!
# Tarballs grouped by short version

The tarballs are sorted by the numbers of their short versions, but grouped by
the texts. Texts that stand for the same numbers, such as `8.0` and `8.00`,
alternate in the sorted list, so the tarballs of a group need not stand together
there. A group has them all nevertheless: what has been entered is split among
the groups by its text, and entering one more tarball keeps it so.

* `Groups.Splits`: how the tarballs that have been entered stand in the groups.
* `Groups.Splits.enter`, `Groups.Splits.foldl_enter`: it stays so for one more
  tarball, and for a list of them.
* `tree_groups`: which groups there are, what is in them and in which order they
  stand.
-/

namespace ReleaseCatalog

/-- Filtering by one text after the other is filtering by all of them. -/
theorem flatMap_filter_perm {ks : List String} (h : ks.Nodup) (l : List Tarball) :
    (ks.flatMap fun k => l.filter (·.shortVersion = k)).Perm (l.filter (·.shortVersion ∈ ks)) := by
  induction ks with
  | nil => simp
  | cons k ks ih =>
    obtain ⟨hnew, hks⟩ := List.nodup_cons.1 h
    have hfirst : (l.filter (·.shortVersion ∈ k :: ks)).filter (·.shortVersion = k) =
        l.filter (·.shortVersion = k) := by
      rw [List.filter_filter]
      refine List.filter_congr fun t _ => ?_
      by_cases ht : t.shortVersion = k <;> simp [ht]
    have hothers : (l.filter (·.shortVersion ∈ k :: ks)).filter
        (fun t => !decide (t.shortVersion = k)) =
        l.filter (·.shortVersion ∈ ks) := by
      rw [List.filter_filter]
      refine List.filter_congr fun t _ => ?_
      by_cases ht : t.shortVersion = k <;> simp [ht, hnew]
    have hsplit := List.filter_append_perm (fun t : Tarball => decide (t.shortVersion = k))
      (l.filter (·.shortVersion ∈ k :: ks))
    rw [hfirst, hothers] at hsplit
    rw [List.flatMap_cons]
    exact ((ih hks).append_left _).trans hsplit

namespace Groups

variable {g : Groups} {j k : String} {e : String × List Tarball} {entered : List Tarball}

theorem keys_opened (g : Groups) (k : String) :
    (g.opened k).keys = if k ∈ g.keys then g.keys else g.keys ++ [k] := by
  unfold opened
  split
  · rfl
  · exact List.map_append

theorem mem_keys_opened : j ∈ (g.opened k).keys ↔ j ∈ g.keys ∨ j = k := by
  rw [keys_opened]
  split
  · rename_i hold
    refine ⟨.inl, ?_⟩
    rintro (hj | rfl)
    · exact hj
    · exact hold
  · rw [List.mem_append, List.mem_singleton]

/-- The group that is opened for a key that has not come up is empty. -/
theorem mem_opened (h : e ∈ (g.opened k).entries) : e ∈ g.entries ∨ e = (k, []) ∧ k ∉ g.keys := by
  unfold opened at h
  split at h
  · exact .inl h
  · rename_i hnew
    rcases List.mem_append.1 h with hold | hlast
    · exact .inl hold
    · exact .inr ⟨List.mem_singleton.1 hlast, hnew⟩

theorem keys_enter (g : Groups) (t : Tarball) :
    (g.enter t).keys = (g.opened t.shortVersion).keys := by
  unfold keys enter
  rw [List.map_map]
  rfl

/-- The tarballs that have been entered are split among the groups: each group
has those of its key, in the order in which they were entered, and the keys
stand in the order in which they came up. -/
structure Splits (g : Groups) (entered : List Tarball) : Prop where
  inOrder : g.keys.Sublist (entered.map (·.shortVersion))
  covers : ∀ t ∈ entered, t.shortVersion ∈ g.keys
  group_eq : ∀ e ∈ g.entries, e.2 = entered.filter (·.shortVersion = e.1)

theorem splits_empty : empty.Splits [] where
  inOrder := .slnil
  covers _ ht := nomatch ht
  group_eq _ he := nomatch he

/-- **One more tarball goes into the group of its key.** -/
theorem Splits.enter (h : g.Splits entered) (t : Tarball) :
    (g.enter t).Splits (entered ++ [t]) where
  inOrder := by
    rw [keys_enter, keys_opened, List.map_append]
    split
    · exact h.inOrder.trans (List.sublist_append_left ..)
    · exact h.inOrder.append (.refl _)
  covers u hu := by
    rw [keys_enter, mem_keys_opened]
    rcases List.mem_append.1 hu with hold | hlast
    · exact .inl (h.covers u hold)
    · exact .inr (congrArg _ (List.mem_singleton.1 hlast))
  group_eq e he := by
    obtain ⟨e, hopened, rfl⟩ := List.mem_map.1 he
    -- an empty group is opened only where nothing has been entered
    have hgroup : e.2 = entered.filter (·.shortVersion = e.1) := by
      rcases mem_opened hopened with hold | ⟨rfl, hnew⟩
      · exact h.group_eq e hold
      · refine (List.filter_eq_nil_iff.2 fun u hu hkey => hnew ?_).symm
        have hsame : u.shortVersion = t.shortVersion := of_decide_eq_true hkey
        rw [← hsame]
        exact h.covers u hu
    show (if e.1 = t.shortVersion then e.2 ++ [t] else e.2) =
        (entered ++ [t]).filter (·.shortVersion = e.1)
    rw [List.filter_append, ← hgroup]
    by_cases hkey : e.1 = t.shortVersion
    · simp only [if_pos hkey, List.filter_cons, decide_eq_true hkey.symm, if_true, List.filter_nil]
    · simp only [if_neg hkey, List.filter_cons, decide_eq_false (Ne.symm hkey),
        Bool.false_eq_true, if_false, List.filter_nil, List.append_nil]

/-- **A whole list is split among the groups.** -/
theorem Splits.foldl_enter (h : g.Splits entered) (l : List Tarball) :
    (l.foldl Groups.enter g).Splits (entered ++ l) := by
  induction l generalizing g entered with
  | nil => rwa [List.append_nil]
  | cons t l ih =>
    have hrest := ih (h.enter t)
    rwa [List.append_assoc] at hrest

/-- Nothing that has been entered is lost, and nothing is there twice. -/
theorem Splits.perm (h : g.Splits entered) : (g.entries.flatMap (·.2)).Perm entered := by
  have hgroups : g.entries.flatMap (·.2) =
      g.keys.flatMap fun k => entered.filter (·.shortVersion = k) := by
    rw [keys, List.flatMap_map, List.flatMap_def, List.flatMap_def, List.map_congr_left h.group_eq]
  have hall : entered.filter (·.shortVersion ∈ g.keys) = entered :=
    List.filter_eq_self.2 fun t ht => decide_eq_true (h.covers t ht)
  have hdistinct : g.keys.Nodup := g.distinct
  have hperm := flatMap_filter_perm hdistinct entered
  rw [hgroups]
  rwa [hall] at hperm

end Groups

/-- **Tarballs of one short version keep their order when they are sorted by it.** -/
theorem sorted_filter_shortVersion (l : List Tarball) (k : String) :
    (sorted .shortVersion l).filter (·.shortVersion = k) = l.filter (·.shortVersion = k) := by
  refine sorted_filter .shortVersion (fun t u ht hu => ?_) l
  have ht := of_decide_eq_true ht
  have hu := of_decide_eq_true hu
  show SortKey.compareVersions t.shortVersion u.shortVersion = .eq
  rw [ht, hu]
  exact Std.ReflCmp.compare_self

/-- **The groups of a list.** There is one group for each text that is the short
version of a tarball, and no other. It has the tarballs of that text in the
order in which they stand in the list. No group stands behind one of a later
short version, and all groups together have what the list has. -/
theorem tree_groups (tarballs : List Tarball) :
    let keys := (tree tarballs).map (·.1)
    keys.Nodup ∧ (∀ k, k ∈ keys ↔ ∃ t ∈ tarballs, t.shortVersion = k) ∧
    (∀ k group, (k, group) ∈ tree tarballs → group = tarballs.filter (·.shortVersion = k)) ∧
    keys.Pairwise (fun j k => SortKey.compareVersions j k ≠ .gt) ∧
    ((tree tarballs).flatMap (·.2)).Perm tarballs := by
  intro keys
  have hsorts := SortKey.sorts_sorted .shortVersion tarballs
  have hsplits := Groups.splits_empty.foldl_enter (sorted .shortVersion tarballs)
  rw [List.nil_append] at hsplits
  refine ⟨Groups.distinct _, fun k => ⟨fun hk => ?_, ?_⟩, fun k group hgroup => ?_, ?_, ?_⟩
  · obtain ⟨t, ht, rfl⟩ := List.mem_map.1 (hsplits.inOrder.subset hk)
    exact ⟨t, hsorts.perm.mem_iff.1 ht, rfl⟩
  · rintro ⟨t, ht, rfl⟩
    exact hsplits.covers t (hsorts.perm.mem_iff.2 ht)
  · exact (hsplits.group_eq (k, group) hgroup).trans (sorted_filter_shortVersion tarballs k)
  · exact (List.pairwise_map.2 hsorts.ordered).sublist hsplits.inOrder
  · exact hsplits.perm.trans hsorts.perm

/-- Two texts stand for the same numbers, and their tarballs alternate. -/
theorem tree_groups_alternating :
    let first : Tarball :=
      { name := "a.tar.gz", os := "linux", arch := "amd64", flavor := "mysql",
        shortVersion := "8.0", version := "8.0.36" }
    let other : Tarball :=
      { first with name := "b.tar.gz", shortVersion := "8.00", version := "8.00.37" }
    let last : Tarball := { first with name := "c.tar.gz", version := "8.0.38" }
    SortKey.compareVersions first.shortVersion other.shortVersion = .eq ∧
      ("8.0", [first, last]) ∈ tree [first, other, last] ∧
      ("8.00", [other]) ∈ tree [first, other, last] := by
  intro first other last
  obtain ⟨-, hkeys, hgroup, -, -⟩ := tree_groups [first, other, last]
  refine ⟨by decide +kernel, ?_, ?_⟩
  · obtain ⟨⟨k, group⟩, hmem, rfl⟩ := List.mem_map.1 ((hkeys "8.0").2 ⟨first, by simp, rfl⟩)
    obtain rfl := hgroup _ group hmem
    exact hmem
  · obtain ⟨⟨k, group⟩, hmem, rfl⟩ := List.mem_map.1 ((hkeys "8.00").2 ⟨other, by simp, rfl⟩)
    obtain rfl := hgroup _ group hmem
    exact hmem

end ReleaseCatalog
