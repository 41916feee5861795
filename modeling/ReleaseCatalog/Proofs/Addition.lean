import ReleaseCatalog.Proofs.EditRuns

/-!
# Adding a tarball and taking it out again

The check behind an addition goes through the whole list, and still blames nothing
but the tarball that is added, as long as the list passed the check before.

* `checkUniqueFrom_append`: the check of a list goes on behind a part that passes it.
* `checkUnique_concat`: so a tarball at the end is compared with each one in
  front of it.
* `Catalog.add_result`: what an addition comes to.
* `Catalog.add_remove`: the same case by case, and the removal that undoes it.
-/

namespace ReleaseCatalog

variable {l l' : List Tarball} {t : Tarball} {names : List String} {builds : List Build}

/-- **The check of a list goes on behind a part that passes it**, with all of
that part seen. -/
theorem checkUniqueFrom_append (h : checkUniqueFrom names builds l = .ok ()) :
    checkUniqueFrom names builds (l ++ l') =
      checkUniqueFrom ((l.map (·.name)).reverse ++ names)
        ((l.map Tarball.build).reverse ++ builds) l' := by
  induction l generalizing names builds with
  | nil => rfl
  | cons u l ih =>
    rw [checkUniqueFrom] at h
    split at h
    · cases h
    · split at h
      · cases h
      · rename_i hname hbuild
        rw [List.cons_append, checkUniqueFrom, if_neg hname, if_neg hbuild, ih h]
        simp only [List.map_cons, List.reverse_cons, List.append_assoc, List.singleton_append]

/-- **Behind a list that repeats nothing, the name of a tarball is looked at
first, and then its build.** -/
theorem checkUnique_concat (h : checkUnique l = .ok ()) :
    checkUnique (l ++ [t]) =
      if ∃ u ∈ l, u.name = t.name then .error (.repeatedName t.name)
      else if ∃ u ∈ l, u.build = t.build then .error (.repeatedBuild t.build)
      else .ok () := by
  unfold checkUnique
  rw [checkUniqueFrom_append h, checkUniqueFrom]
  simp only [List.append_nil, List.mem_reverse, List.mem_map]
  rfl

namespace Catalog

variable {c c' : Catalog}

/-- **What an addition comes to** where nothing was repeated before. -/
theorem add_result (h : checkUnique c.tarballs = .ok ()) (t : Tarball) :
    (c.add t).result =
      if ∃ u ∈ c.tarballs, u.name = t.name then .error (.repeatedName t.name)
      else if ∃ u ∈ c.tarballs, u.build = t.build then .error (.repeatedBuild t.build)
      else .ok { c with tarballs := c.tarballs ++ [t] } := by
  have hadd : (c.add t).result =
      (checkUnique (c.tarballs ++ [t])).map fun _ => { c with tarballs := c.tarballs ++ [t] } := by
    unfold add
    rw [Report.result_bind, Report.result_ofExcept]
    cases checkUnique (c.tarballs ++ [t]) <;> rfl
  rw [hadd, checkUnique_concat h]
  split
  · rfl
  · split <;> rfl

/-- A name that is there is what an addition fails for, whatever else is there. -/
theorem add_repeatedName_iff (h : checkUnique c.tarballs = .ok ()) :
    (c.add t).result = .error (.repeatedName t.name) ↔ ∃ u ∈ c.tarballs, u.name = t.name := by
  rw [add_result h]
  by_cases hname : ∃ u ∈ c.tarballs, u.name = t.name
  · rw [if_pos hname]
    exact iff_of_true rfl hname
  · rw [if_neg hname]
    refine iff_of_false (fun he => ?_) hname
    split at he <;> cases he

/-- A build that is there is what an addition under a new name fails for. -/
theorem add_repeatedBuild_iff (h : checkUnique c.tarballs = .ok ()) :
    (c.add t).result = .error (.repeatedBuild t.build) ↔
      (∀ u ∈ c.tarballs, u.name ≠ t.name) ∧ ∃ u ∈ c.tarballs, u.build = t.build := by
  rw [add_result h]
  by_cases hname : ∃ u ∈ c.tarballs, u.name = t.name
  · rw [if_pos hname]
    refine iff_of_false (fun he => nomatch he) fun hnew => ?_
    obtain ⟨u, hu, he⟩ := hname
    exact hnew.1 u hu he
  · rw [if_neg hname]
    have hnames : ∀ u ∈ c.tarballs, u.name ≠ t.name := fun u hu he => hname ⟨u, hu, he⟩
    rw [and_iff_right hnames]
    by_cases hbuild : ∃ u ∈ c.tarballs, u.build = t.build
    · rw [if_pos hbuild]
      exact iff_of_true rfl hbuild
    · rw [if_neg hbuild]
      exact iff_of_false (fun he => nomatch he) hbuild

/-- A tarball can be added if no other one has its name or its build. -/
theorem add_isOk_iff (h : checkUnique c.tarballs = .ok ()) :
    (∃ c', (c.add t).result = .ok c') ↔ ∀ u ∈ c.tarballs, u.name ≠ t.name ∧ u.build ≠ t.build := by
  rw [add_result h]
  constructor
  · rintro ⟨c', hok⟩ u hu
    split at hok
    · exact nomatch hok
    · rename_i hname
      split at hok
      · exact nomatch hok
      · rename_i hbuild
        exact ⟨fun he => hname ⟨u, hu, he⟩, fun he => hbuild ⟨u, hu, he⟩⟩
  · intro hnew
    rw [if_neg fun ⟨u, hu, he⟩ => (hnew u hu).1 he, if_neg fun ⟨u, hu, he⟩ => (hnew u hu).2 he]
    exact ⟨_, rfl⟩

/-- **Taking out what was added gives the catalog back.** -/
theorem remove_added (h : (c.add t).result = .ok c') : (c'.remove t.name).result = .ok c := by
  obtain ⟨hunique, rfl⟩ := add_ok_iff.1 h
  obtain ⟨-, hnew⟩ := distinct_concat_iff.1 (checkUnique_ok_iff.1 hunique)
  refine remove_ok_iff.2 ⟨⟨t, List.mem_append_right _ List.mem_cons_self, rfl⟩, ?_⟩
  have hkept : c.tarballs.filter (·.name ≠ t.name) = c.tarballs :=
    List.filter_eq_self.2 fun u hu => decide_eq_true (hnew u hu).1
  have htaken : [t].filter (·.name ≠ t.name) = [] := by simp
  rw [List.filter_append, hkept, htaken, List.append_nil]

/-- **An addition to a catalog that repeats nothing fails for the name of a
tarball that is there, else for its build, and else puts the tarball at the
end.** Then nothing is repeated again, and the removal of the name gives back
the catalog as it was, in the same order. -/
theorem add_remove (c : Catalog) (t : Tarball) (h : checkUnique c.tarballs = .ok ()) :
    ((c.add t).result = .error (.repeatedName t.name) ↔ ∃ u ∈ c.tarballs, u.name = t.name) ∧
    ((c.add t).result = .error (.repeatedBuild t.build) ↔
      (∀ u ∈ c.tarballs, u.name ≠ t.name) ∧ ∃ u ∈ c.tarballs, u.build = t.build) ∧
    ((∃ c', (c.add t).result = .ok c') ↔ ∀ u ∈ c.tarballs, u.name ≠ t.name ∧ u.build ≠ t.build) ∧
    ∀ c', (c.add t).result = .ok c' →
      c' = { c with tarballs := c.tarballs ++ [t] } ∧ checkUnique c'.tarballs = .ok () ∧
        (c'.remove t.name).result = .ok c := by
  refine ⟨add_repeatedName_iff h, add_repeatedBuild_iff h, add_isOk_iff h, fun c' hadd => ?_⟩
  obtain ⟨hunique, hc'⟩ := add_ok_iff.1 hadd
  subst hc'
  exact ⟨rfl, hunique, remove_added hadd⟩

/-- A tarball whose name and build are both there fails for its name, one under a new
name for its build, and a minimal one of the same version goes in and out again. -/
theorem add_remove_minimal :
    let ours : Tarball :=
      { name := "a.tar.gz", checksum := "MD5:1", os := "Linux", arch := "amd64", url := "u",
        flavor := "mysql", shortVersion := "8.0", version := "8.0.1" }
    let other : Tarball := { ours with name := "b.tar.gz", version := "8.0.2" }
    let renamed : Tarball := { ours with name := "c.tar.gz" }
    let minimal : Tarball := { renamed with minimal := true }
    let c : Catalog := ⟨"0.5.1", "", [ours, other]⟩
    checkUnique c.tarballs = .ok () ∧ (c.add ours).result = .error (.repeatedName "a.tar.gz") ∧
      (c.add renamed).result = .error (.repeatedBuild ours.build) ∧
      ∃ c', (c.add minimal).result = .ok c' ∧ c'.tarballs = [ours, other, minimal] ∧
        (c'.remove "c.tar.gz").result = .ok c := by
  intro ours other renamed minimal c
  have h : checkUnique c.tarballs = .ok () := by decide +kernel
  refine ⟨h, (add_remove c ours h).1.2 ⟨ours, List.mem_cons_self, rfl⟩,
    (add_remove c renamed h).2.1.2 ⟨by decide +kernel, ours, List.mem_cons_self, rfl⟩, ?_⟩
  obtain ⟨-, -, hok, hundone⟩ := add_remove c minimal h
  obtain ⟨c', hadd⟩ := hok.2 (by decide +kernel)
  obtain ⟨rfl, -, hremove⟩ := hundone c' hadd
  exact ⟨_, hadd, rfl, hremove⟩

end Catalog

end ReleaseCatalog
