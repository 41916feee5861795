import Mathlib.Data.List.Nodup
import ReleaseCatalog.Edit
import ReleaseCatalog.Integrity

/-!
# What the checks of a catalog accept

`checkUnique` and `Catalog.validate` go through a list once and remember what
they have seen. What they accept does not speak of an order:

* `checkUnique_ok_iff`: no two tarballs share a name, and no two share a build.
* `Catalog.validate_ok_iff`: the same, and nothing is missing.
* `Catalog.validate_ok_of_perm`: so a catalog may be kept in any order or in none.
-/

namespace ReleaseCatalog

/-- No two tarballs of a list share a name, no two share a build, and none has a
name or a build that was seen before. -/
structure DistinctFrom (names : List String) (builds : List Build) (l : List Tarball) : Prop where
  names_nodup : (l.map (·.name)).Nodup
  builds_nodup : (l.map Tarball.build).Nodup
  new_names : ∀ t ∈ l, t.name ∉ names
  new_builds : ∀ t ∈ l, t.build ∉ builds

/-- No two tarballs of a list share a name, and no two share a build. -/
abbrev Distinct (l : List Tarball) : Prop := DistinctFrom [] [] l

variable {names : List String} {builds : List Build} {t : Tarball} {l l' : List Tarball}

theorem distinctFrom_nil : DistinctFrom names builds [] := by constructor <;> simp

theorem distinctFrom_cons :
    DistinctFrom names builds (t :: l) ↔
      t.name ∉ names ∧ t.build ∉ builds ∧ DistinctFrom (t.name :: names) (t.build :: builds) l := by
  constructor
  · rintro ⟨hn, hb, nn, nb⟩
    rw [List.map_cons, List.nodup_cons] at hn hb
    refine ⟨nn t List.mem_cons_self, nb t List.mem_cons_self, hn.2, hb.2, ?_, ?_⟩
    · intro u hu
      rw [List.mem_cons, not_or]
      exact ⟨fun h => hn.1 (h ▸ List.mem_map_of_mem hu), nn u (List.mem_cons_of_mem _ hu)⟩
    · intro u hu
      rw [List.mem_cons, not_or]
      exact ⟨fun h => hb.1 (h ▸ List.mem_map_of_mem hu), nb u (List.mem_cons_of_mem _ hu)⟩
  · rintro ⟨ht, hb, h⟩
    refine ⟨?_, ?_, ?_, ?_⟩
    · rw [List.map_cons, List.nodup_cons, List.mem_map]
      refine ⟨?_, h.names_nodup⟩
      rintro ⟨u, hu, he⟩
      exact h.new_names u hu (he ▸ List.mem_cons_self)
    · rw [List.map_cons, List.nodup_cons, List.mem_map]
      refine ⟨?_, h.builds_nodup⟩
      rintro ⟨u, hu, he⟩
      exact h.new_builds u hu (he ▸ List.mem_cons_self)
    · rintro u (_ | ⟨_, hu⟩)
      · exact ht
      · exact fun hm => h.new_names u hu (List.mem_cons_of_mem _ hm)
    · rintro u (_ | ⟨_, hu⟩)
      · exact hb
      · exact fun hm => h.new_builds u hu (List.mem_cons_of_mem _ hm)

theorem distinct_iff : Distinct l ↔ (l.map (·.name)).Nodup ∧ (l.map Tarball.build).Nodup :=
  ⟨fun h => ⟨h.names_nodup, h.builds_nodup⟩, fun h => ⟨h.1, h.2, by simp, by simp⟩⟩

theorem Distinct.perm (h : Distinct l) (hp : l.Perm l') : Distinct l' :=
  distinct_iff.2 ⟨(hp.map _).nodup_iff.1 h.names_nodup, (hp.map _).nodup_iff.1 h.builds_nodup⟩

/-- Tarballs may be left out. -/
theorem Distinct.sublist (h : Distinct l) (hs : l'.Sublist l) : Distinct l' :=
  distinct_iff.2 ⟨h.names_nodup.sublist (hs.map _), h.builds_nodup.sublist (hs.map _)⟩

theorem Distinct.eq_of_name (h : Distinct l) {t u : Tarball} (ht : t ∈ l) (hu : u ∈ l)
    (he : t.name = u.name) : t = u :=
  List.inj_on_of_nodup_map h.names_nodup ht hu he

/-- A tarball may be put at the end if its name and its build are new. -/
theorem distinct_concat_iff :
    Distinct (l ++ [t]) ↔ Distinct l ∧ ∀ u ∈ l, u.name ≠ t.name ∧ u.build ≠ t.build := by
  rw [distinct_iff, distinct_iff, List.map_append, List.map_append, List.nodup_append,
    List.nodup_append]
  constructor
  · rintro ⟨⟨hn, -, hname⟩, hb, -, hbuild⟩
    refine ⟨⟨hn, hb⟩, fun u hu => ⟨?_, ?_⟩⟩
    · exact hname _ (List.mem_map_of_mem hu) _ List.mem_cons_self
    · exact hbuild _ (List.mem_map_of_mem hu) _ List.mem_cons_self
  · rintro ⟨⟨hn, hb⟩, hnew⟩
    refine ⟨⟨hn, List.nodup_singleton _, ?_⟩, hb, List.nodup_singleton _, ?_⟩
    · intro a ha b hmem
      obtain ⟨u, hu, rfl⟩ := List.mem_map.1 ha
      rw [List.mem_singleton.1 hmem]
      exact (hnew u hu).1
    · intro a ha b hmem
      obtain ⟨u, hu, rfl⟩ := List.mem_map.1 ha
      rw [List.mem_singleton.1 hmem]
      exact (hnew u hu).2

theorem Distinct.nodup (h : Distinct l) : l.Nodup := .of_map _ h.names_nodup

theorem checkUniqueFrom_ok_iff :
    ∀ {l : List Tarball} {names : List String} {builds : List Build},
      checkUniqueFrom names builds l = .ok () ↔ DistinctFrom names builds l := by
  intro l
  induction l with
  | nil => exact fun {_ _} => ⟨fun _ => distinctFrom_nil, fun _ => rfl⟩
  | cons t l ih =>
    intro names builds
    rw [distinctFrom_cons, ← ih, checkUniqueFrom]
    by_cases hn : t.name ∈ names
    · simp [hn]
    · by_cases hb : t.build ∈ builds <;> simp [hn, hb]

/-- **The uniqueness check accepts exactly the lists without a repeated name or
build.** -/
theorem checkUnique_ok_iff : checkUnique l = .ok () ↔ Distinct l := checkUniqueFrom_ok_iff

/-- Nothing is wrong with a list exactly if it repeats nothing and no tarball
lacks a field. -/
theorem issuesFrom_nil_iff :
    ∀ {l : List Tarball} {names : List String} {builds : List Build},
      issuesFrom names builds l = .ok [] ↔
        DistinctFrom names builds l ∧ ∀ t ∈ l, t.issues = [] := by
  intro l
  induction l with
  | nil => exact fun {_ _} => ⟨fun _ => ⟨distinctFrom_nil, by simp⟩, fun _ => rfl⟩
  | cons t l ih =>
    intro names builds
    have ih' := @ih (t.name :: names) (t.build :: builds)
    rw [distinctFrom_cons, List.forall_mem_cons, issuesFrom]
    by_cases hn : t.name ∈ names
    · simp [hn, throw, throwThe, MonadExceptOf.throw, bind, Except.bind]
    · -- a repeated build is an issue, so nothing may be found before the rest is looked at
      cases hl : issuesFrom (t.name :: names) (t.build :: builds) l with
      | error e =>
        rw [hl] at ih'
        have hno : ¬ (DistinctFrom (t.name :: names) (t.build :: builds) l ∧
            ∀ u ∈ l, u.issues = []) :=
          fun h => nomatch ih'.2 h
        refine iff_of_false ?_ fun h => hno ⟨h.1.2.2, h.2.2⟩
        simp [hn, bind, Except.bind]
      | ok later =>
        rw [hl, Except.ok.injEq] at ih'
        by_cases hb : t.build ∈ builds
        · simp [hn, hb, bind, Except.bind, pure, Except.pure]
        · simp [hn, hb, ih', bind, Except.bind, pure, Except.pure, and_left_comm]

namespace Catalog

variable {c : Catalog}

/-- **A catalog may be kept exactly if it says the version of the tool, repeats
no name and no build, and lacks no field.** -/
theorem validate_ok_iff :
    c.validate = .ok () ↔
      c.schemaVersion ≠ "" ∧ Distinct c.tarballs ∧ ∀ t ∈ c.tarballs, t.issues = [] := by
  rw [← issuesFrom_nil_iff]
  unfold validate issues
  cases issuesFrom [] [] c.tarballs with
  | error e => simp [bind, Except.bind]
  | ok entries =>
    by_cases hv : c.schemaVersion = "" <;> by_cases he : entries = [] <;>
      simp [hv, he, bind, Except.bind, pure, Except.pure, throw, throwThe, MonadExceptOf.throw]

/-- The order of the tarballs does not matter to the checks. -/
theorem validate_ok_of_perm (h : c.validate = .ok ()) (hp : c.tarballs.Perm l) :
    ({ c with tarballs := l } : Catalog).validate = .ok () := by
  obtain ⟨hv, hd, hi⟩ := validate_ok_iff.1 h
  exact validate_ok_iff.2 ⟨hv, hd.perm hp, fun t ht => hi t (hp.mem_iff.2 ht)⟩

end Catalog

end ReleaseCatalog
