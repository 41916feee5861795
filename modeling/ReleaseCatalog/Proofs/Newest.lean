import ReleaseCatalog.Order
import ReleaseCatalog.Proofs.CatalogOrder
import ReleaseCatalog.Resolve

/-!
# The newest of several tarballs

A list of tarballs is searched for the newest one by going through it once and
changing over to each tarball whose version the one so far precedes. Where one
version continues another, neither precedes, so what is found depends on the
order of the list.

* `foldl_newer_unsurpassed`: what is found is preceded by nothing, but need not
  be greatest.
* `foldl_newer_of_unsurpassed`: whatever is preceded by nothing is found if it
  comes first.
* `foldl_newer_cases`: the search stays with what comes first, or that is older
  than what it finds.
* `Greatest.unsurpassed_iff`: preceded by nothing are the greatest tarballs of
  the list and those whose version a greatest version continues.
-/

namespace ReleaseCatalog

variable {first g t u : Tarball} {rest l l' : List Tarball}

/-- The tarball is in the list and precedes none in it. -/
def Unsurpassed (t : Tarball) (l : List Tarball) : Prop :=
  t ∈ l ∧ ∀ u ∈ l, t.parsedVersion.precedes u.parsedVersion = false

/-- The tarball is in the list, and in the order of versions none in it is above. -/
def Greatest (t : Tarball) (l : List Tarball) : Prop :=
  t ∈ l ∧ ∀ u ∈ l, SortKey.version.compare u t ≠ .gt

instance (t : Tarball) (l : List Tarball) : Decidable (Greatest t l) :=
  inferInstanceAs (Decidable (_ ∧ _))

theorem Unsurpassed.perm (h : Unsurpassed t l) (hp : l.Perm l') : Unsurpassed t l' :=
  ⟨hp.mem_iff.1 h.1, fun u hu => h.2 u (hp.mem_iff.2 hu)⟩

/-- One step of the search keeps what nothing so far surpasses. -/
theorem newer_unsurpassed (h : Unsurpassed t l) : Unsurpassed (newer t u) (u :: l) := by
  unfold newer
  split
  · rename_i htu
    refine ⟨List.mem_cons_self, ?_⟩
    rintro v (_ | ⟨_, hv⟩)
    · exact Version.precedes_irrefl _
    · -- what the new one precedes, the old one would precede too
      refine Bool.eq_false_iff.2 fun huv => ?_
      have htv := Version.precedes_trans htu huv
      rw [h.2 v hv] at htv
      exact nomatch htv
  · rename_i htu
    refine ⟨List.mem_cons_of_mem _ h.1, ?_⟩
    rintro v (_ | ⟨_, hv⟩)
    · exact Bool.eq_false_iff.2 htu
    · exact h.2 v hv

/-- So does the whole search. -/
theorem foldl_newer_keeps (h : Unsurpassed t l) :
    Unsurpassed (rest.foldl newer t) (rest.reverse ++ l) := by
  -- on what is still to be searched; each step adds a tarball in front of what has been
  induction rest generalizing t l with
  | nil => exact h
  | cons u rest ih =>
    rw [List.foldl_cons, List.reverse_cons, List.append_assoc]
    exact ih (newer_unsurpassed h)

/-- **What the search finds precedes nothing in the list.** -/
theorem foldl_newer_unsurpassed (first : Tarball) (rest : List Tarball) :
    Unsurpassed (rest.foldl newer first) (first :: rest) := by
  have hfirst : Unsurpassed first [first] := by
    refine ⟨List.mem_singleton.2 rfl, fun u hu => ?_⟩
    rw [List.mem_singleton.1 hu]
    exact Version.precedes_irrefl _
  refine (foldl_newer_keeps hfirst).perm ?_
  exact List.perm_append_comm.trans ((List.reverse_perm rest).cons first)

/-- The search stays with a tarball that comes first and precedes nothing. -/
theorem foldl_newer_of_unsurpassed
    (h : ∀ u ∈ rest, t.parsedVersion.precedes u.parsedVersion = false) :
    rest.foldl newer t = t := by
  induction rest with
  | nil => rfl
  | cons u rest ih =>
    rw [List.forall_mem_cons] at h
    have hstay : newer t u = t := if_neg (Bool.eq_false_iff.1 h.1)
    rw [List.foldl_cons, hstay]
    exact ih h.2

/-- The search either stays with the first tarball, or what it finds is newer
than that. -/
theorem foldl_newer_cases (first : Tarball) (rest : List Tarball) :
    rest.foldl newer first = first ∨
      first.parsedVersion.precedes (rest.foldl newer first).parsedVersion = true := by
  induction rest generalizing first with
  | nil => exact .inl rfl
  | cons t rest ih =>
    rw [List.foldl_cons]
    by_cases hnewer : first.parsedVersion.precedes t.parsedVersion = true
    · have hstep : newer first t = t := if_pos hnewer
      rw [hstep]
      rcases ih t with hstays | hlater
      · rw [hstays]
        exact .inr hnewer
      · exact .inr (Version.precedes_trans hnewer hlater)
    · have hstep : newer first t = first := if_neg hnewer
      rw [hstep]
      exact ih first

/-- The search among versions goes along with the search among tarballs. -/
theorem foldl_newer_parsedVersion (first : Tarball) (rest : List Tarball) :
    (rest.map (·.parsedVersion)).foldl Version.newer first.parsedVersion =
      (rest.foldl newer first).parsedVersion := by
  rw [List.foldl_map]
  refine List.foldl_hom Tarball.parsedVersion ?_
  intro t u
  unfold Version.newer newer
  split <;> rfl

theorem exists_greatest (h : l ≠ []) : ∃ g, Greatest g l := by
  induction l with
  | nil => exact absurd rfl h
  | cons t l ih =>
    have hself : ∀ u, SortKey.version.compare u u ≠ .gt := fun u => by
      have hrefl : u.parsedVersion.compare u.parsedVersion = .eq := Std.ReflCmp.compare_self
      show u.parsedVersion.compare u.parsedVersion ≠ .gt
      rw [hrefl]
      decide
    by_cases hl : l = []
    · subst hl
      refine ⟨t, List.mem_cons_self, fun u hu => ?_⟩
      rw [List.mem_singleton.1 hu]
      exact hself t
    · obtain ⟨g, hg, hmax⟩ := ih hl
      by_cases htg : SortKey.version.compare t g = .gt
      · -- the new tarball is above the greatest of the others, so it is above them all
        refine ⟨t, List.mem_cons_self, ?_⟩
        rintro u (_ | ⟨_, hu⟩)
        · exact hself t
        · have hgt : SortKey.version.compare g t = .lt := Std.OrientedCmp.gt_iff_lt.1 htg
          have hug : (SortKey.version.compare u g).isLE := Ordering.isLE_iff_ne_gt.2 (hmax u hu)
          have hlt : SortKey.version.compare u t = .lt := Std.TransCmp.lt_of_isLE_of_lt hug hgt
          rw [hlt]
          decide
      · refine ⟨g, List.mem_cons_of_mem _ hg, ?_⟩
        rintro u (_ | ⟨_, hu⟩)
        · exact htg
        · exact hmax u hu

/-- **Nothing precedes exactly the greatest tarballs and those whose version
they continue.** -/
theorem Greatest.unsurpassed_iff (hg : Greatest g l) (ht : t ∈ l) :
    Unsurpassed t l ↔ t.parsedVersion.IsPrefix g.parsedVersion := by
  have hle : ∀ u ∈ l, u.parsedVersion.compare g.parsedVersion ≠ .gt := hg.2
  constructor
  · intro h
    refine (Version.compare_ne_gt_iff.1 (hle t ht)).resolve_left fun hp => ?_
    rw [h.2 g hg.1] at hp
    exact nomatch hp
  · intro hp
    refine ⟨ht, fun u hu => Bool.eq_false_iff.2 fun htu => ?_⟩
    -- the first number that differs is one of the greatest version, too
    have hgu :=
      Version.compare_of_precedes (Version.precedes_of_prefix htu hp (.refl u.parsedVersion))
    exact hle u hu (Std.OrientedCmp.gt_iff_lt.2 hgu)

theorem Greatest.unsurpassed (hg : Greatest g l) : Unsurpassed g l :=
  (hg.unsurpassed_iff hg.1).2 (.refl _)

/-- The tarball is in the list, and the version of another one continues its
version properly. -/
def Shadowed (t g : Tarball) (l : List Tarball) : Prop :=
  t ∈ l ∧ t.parsedVersion.IsPrefix g.parsedVersion ∧ t.parsedVersion ≠ g.parsedVersion

instance (t g : Tarball) (l : List Tarball) : Decidable (Shadowed t g l) :=
  inferInstanceAs (Decidable (_ ∧ _))

theorem Greatest.of_version (hg : Greatest g l) (ht : t ∈ l)
    (hv : t.parsedVersion = g.parsedVersion) :
    Greatest t l := by
  refine ⟨ht, fun u hu => ?_⟩
  show u.parsedVersion.compare t.parsedVersion ≠ .gt
  rw [hv]
  exact hg.2 u hu

theorem Shadowed.not_greatest (h : Shadowed t g l) (hg : Greatest g l) : ¬ Greatest t l := by
  intro ht
  have hlt : t.parsedVersion.compare g.parsedVersion = .lt := Version.compare_lt_iff.2 (.inr h.2)
  exact ht.2 g hg.1 (Std.OrientedCmp.gt_iff_lt.2 hlt)

theorem Request.select_perm (r : Request) (hp : l.Perm l') : (r.select l).Perm (r.select l') :=
  hp.filter _

/-- In some order of the list any given match comes first. -/
theorem Request.exists_first (r : Request) (ht : t ∈ r.select l) :
    ∃ l' rest, l'.Perm l ∧ r.select l' = t :: rest := by
  obtain ⟨hmem, haccepts⟩ := List.mem_filter.1 ht
  exact ⟨t :: l.erase t, r.select (l.erase t), (List.perm_cons_erase hmem).symm,
    List.filter_cons_of_pos haccepts⟩

end ReleaseCatalog
