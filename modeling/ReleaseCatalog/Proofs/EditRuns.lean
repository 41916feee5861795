import Mathlib.Data.List.Induction
import ReleaseCatalog.CatalogFile
import ReleaseCatalog.Edit
import ReleaseCatalog.Proofs.Sequence
import ReleaseCatalog.Proofs.Uniqueness

/-!
# What a run of edits keeps

Adding a tarball checks names and builds of the whole list, removing one cannot
repeat either, and merging takes over tarballs by their names alone.

* `Catalog.edited_names`: whatever is done, no name is repeated.
* `Catalog.edited_distinct_iff`: no build is repeated either, for as long as no
  merge takes over a tarball under a new name whose build is there already
  (`Catalog.Clash`).
* `Catalog.edited_repeats_build`: one addition and one merge with a valid
  catalog that break it.
-/

namespace ReleaseCatalog

open Operation

theorem newcomers_sublist {l : List Tarball} :
    ∀ {names : List String}, (newcomers names l).Sublist l := by
  induction l with
  | nil => exact List.Sublist.refl _
  | cons t l ih =>
    intro names
    unfold newcomers
    split
    · exact ih.cons t
    · exact ih.cons_cons t

/-- The newcomers have names that are new, to what was seen and to each other. -/
theorem newcomers_names {l : List Tarball} :
    ∀ {names : List String}, ((newcomers names l).map (·.name)).Nodup ∧
      ∀ t ∈ newcomers names l, t.name ∉ names := by
  induction l with
  | nil => simp [newcomers]
  | cons t l ih =>
    intro names
    unfold newcomers
    split
    · exact ih
    · rename_i ht
      obtain ⟨hnodup, hnew⟩ := @ih (t.name :: names)
      refine ⟨List.nodup_cons.2 ⟨?_, hnodup⟩, ?_⟩
      · intro hm
        obtain ⟨u, hu, he⟩ := List.mem_map.1 hm
        exact hnew u hu (he ▸ List.mem_cons_self)
      · rintro u (_ | ⟨_, hu⟩)
        · exact ht
        · exact fun hm => hnew u hu (List.mem_cons_of_mem _ hm)

/-- From a list without repeated names everything comes along that has a new name. -/
theorem mem_newcomers {l : List Tarball} {t : Tarball} :
    ∀ {names : List String}, (l.map (·.name)).Nodup → t ∈ l → t.name ∉ names →
      t ∈ newcomers names l := by
  induction l with
  | nil => exact fun _ ht => nomatch ht
  | cons u l ih =>
    intro names hnodup ht hnew
    obtain ⟨hu, hl⟩ := List.nodup_cons.1 hnodup
    unfold newcomers
    split
    · rename_i hm
      rcases List.mem_cons.1 ht with rfl | ht
      · exact absurd hm hnew
      · exact ih hl ht hnew
    · rcases List.mem_cons.1 ht with rfl | ht
      · exact List.mem_cons_self
      · refine List.mem_cons_of_mem _ (ih hl ht ?_)
        rw [List.mem_cons, not_or]
        exact ⟨fun he => hu (List.mem_map.2 ⟨t, ht, he⟩), hnew⟩

/-- With the newcomers added no name is repeated. -/
theorem merged_names {l l' : List Tarball} (h : (l.map (·.name)).Nodup) :
    ((l ++ newcomers (l.map (·.name)) l').map (·.name)).Nodup := by
  obtain ⟨hnodup, hnew⟩ := @newcomers_names l' (l.map (·.name))
  rw [List.map_append, List.nodup_append]
  refine ⟨h, hnodup, ?_⟩
  rintro a ha b hb rfl
  obtain ⟨t, ht, rfl⟩ := List.mem_map.1 hb
  exact hnew t ht ha

namespace Catalog

variable {c c' other : Catalog} {t : Tarball} {name : String}

theorem add_ok_iff :
    (c.add t).result = .ok c' ↔
      checkUnique (c.tarballs ++ [t]) = .ok () ∧ { c with tarballs := c.tarballs ++ [t] } = c' := by
  unfold add
  simp only [Report.result_bind, Report.result_ofExcept, Report.result_log,
    Report.result_pure, bind_ok_iff]
  constructor
  · rintro ⟨⟨⟩, hu, ⟨⟩, -, h⟩
    exact ⟨hu, pure_eq_ok.1 h⟩
  · rintro ⟨hu, h⟩
    exact ⟨(), hu, (), trivial, pure_eq_ok.2 h⟩

theorem remove_ok_iff :
    (c.remove name).result = .ok c' ↔
      (∃ t ∈ c.tarballs, t.name = name) ∧
      { c with tarballs := c.tarballs.filter (·.name ≠ name) } = c' := by
  unfold remove removeNamed
  simp only [Report.result_bind, Report.result_ofExcept, Report.result_log,
    Report.result_pure, bind_ok_iff]
  by_cases h : c.tarballs.any (·.name = name)
  · simpa [h] using fun _ => List.any_eq_true.1 h
  · have hno : ¬ ∃ t ∈ c.tarballs, t.name = name := by simpa using h
    simp [h, hno]

theorem merge_ok_iff :
    (c.merge other).result = .ok c' ↔
      c.tarballs ≠ [] ∧ other.tarballs ≠ [] ∧
        { c with
          schemaVersion := toolVersion
          tarballs := c.tarballs ++ newcomers (c.tarballs.map (·.name)) other.tarballs } = c' := by
  unfold merge
  by_cases hc : c.tarballs = [] <;> by_cases ho : other.tarballs = [] <;> simp [hc, ho, bind_ok_iff]

/-- A tarball of the other catalog has a name that is new, but not a new build. -/
def Clash (c other : Catalog) : Prop :=
  ∃ t ∈ other.tarballs, t.name ∉ c.tarballs.map (·.name) ∧ t.build ∈ c.tarballs.map Tarball.build

instance (c other : Catalog) : Decidable (c.Clash other) :=
  inferInstanceAs (Decidable (∃ t ∈ other.tarballs, _ ∧ _))

/-- **Merging repeats a build exactly if the two catalogs clash.** -/
theorem merged_distinct_iff (hc : Distinct c.tarballs) (ho : Distinct other.tarballs) :
    Distinct (c.tarballs ++ newcomers (c.tarballs.map (·.name)) other.tarballs) ↔
      ¬ c.Clash other := by
  constructor
  · rintro h ⟨t, ht, hname, hbuild⟩
    have hb := h.builds_nodup
    rw [List.map_append, List.nodup_append] at hb
    have hmem := mem_newcomers ho.names_nodup ht hname
    exact hb.2.2 _ hbuild _ (List.mem_map_of_mem hmem) rfl
  · intro h
    refine distinct_iff.2 ⟨merged_names hc.names_nodup, ?_⟩
    rw [List.map_append, List.nodup_append]
    refine ⟨hc.builds_nodup, (ho.sublist newcomers_sublist).builds_nodup, ?_⟩
    -- a build on both sides would belong to a newcomer, and its name is new
    rintro a ha b hb rfl
    obtain ⟨t, ht, rfl⟩ := List.mem_map.1 hb
    exact h ⟨t, newcomers_sublist.subset ht, newcomers_names.2 t ht, ha⟩

/-- The catalog after one edit, the same one if the edit fails. -/
theorem edited_append (c : Catalog) (edits : List Edit) (e : Edit) :
    c.edited (edits ++ [e]) = ((c.edited edits).edit e).result.toOption.getD (c.edited edits) := by
  unfold edited
  rw [List.foldl_append]
  rfl

/-- One edit does not repeat a name. -/
theorem edit_names {e : Edit} (h : (c.tarballs.map (·.name)).Nodup)
    (he : (c.edit e).result = .ok c') :
    (c'.tarballs.map (·.name)).Nodup := by
  cases e with
  | add t =>
    obtain ⟨hu, rfl⟩ := add_ok_iff.1 he
    exact (checkUnique_ok_iff.1 hu).names_nodup
  | remove name =>
    obtain ⟨-, rfl⟩ := remove_ok_iff.1 he
    exact h.sublist (List.filter_sublist.map _)
  | merge other =>
    obtain ⟨-, -, rfl⟩ := merge_ok_iff.1 he
    exact merged_names h

/-- One edit repeats neither a name nor a build, unless it is a merge that clashes. -/
theorem edit_distinct {e : Edit} (h : Distinct c.tarballs)
    (hm : ∀ other, e = .merge other → Distinct other.tarballs ∧ ¬ c.Clash other)
    (he : (c.edit e).result = .ok c') : Distinct c'.tarballs := by
  cases e with
  | add t =>
    obtain ⟨hu, rfl⟩ := add_ok_iff.1 he
    exact checkUnique_ok_iff.1 hu
  | remove name =>
    obtain ⟨-, rfl⟩ := remove_ok_iff.1 he
    exact h.sublist List.filter_sublist
  | merge other =>
    obtain ⟨-, -, rfl⟩ := merge_ok_iff.1 he
    obtain ⟨ho, hclash⟩ := hm other rfl
    exact (merged_distinct_iff h ho).2 hclash

/-- A merge that clashes goes through, and the catalog repeats a build afterwards. -/
theorem merge_of_clash (h : Distinct c.tarballs) (ho : Distinct other.tarballs)
    (hclash : c.Clash other) :
    ∃ c', (c.edit (.merge other)).result = .ok c' ∧ ¬ Distinct c'.tarballs := by
  have hne : c.tarballs ≠ [] ∧ other.tarballs ≠ [] := by
    obtain ⟨t, ht, -, hb⟩ := hclash
    exact ⟨fun hnil => (by simp [hnil] at hb), List.ne_nil_of_mem ht⟩
  refine ⟨_, merge_ok_iff.2 ⟨hne.1, hne.2, rfl⟩, fun hd => ?_⟩
  exact (merged_distinct_iff h ho).1 hd hclash

/-- The catalogs to start from: a fresh one, and one that was opened. -/
inductive Opened : Catalog → Prop where
  | fresh : Opened .fresh
  | file (f : CatalogFile) (m : Machine) {c : Catalog}
      (h : (f.openCatalog.run m).1.result = .ok c) : Opened c

theorem Opened.distinct (h : c.Opened) : Distinct c.tarballs := by
  cases h with
  | fresh => exact distinctFrom_nil
  | file f m h =>
    obtain ⟨there, v, -, h⟩ := runs_bind.1 (runs_of_ok h)
    split at h
    · obtain ⟨c', v', -, h⟩ := runs_bind.1 h
      obtain ⟨_, _, hv, h⟩ := runs_bind.1 h
      obtain ⟨_, _, -, h⟩ := runs_bind.1 h
      obtain ⟨rfl, -⟩ := runs_pure.1 h
      exact (validate_ok_iff.1 (runs_ofExcept.1 hv).1).2.1
    · obtain ⟨_, _, -, h⟩ := runs_bind.1 h
      obtain ⟨rfl, -⟩ := runs_pure.1 h
      exact distinctFrom_nil

/-- **No edit ever repeats a name.** -/
theorem edited_names (h : (c.tarballs.map (·.name)).Nodup) (edits : List Edit) :
    ((c.edited edits).tarballs.map (·.name)).Nodup := by
  induction edits using List.reverseRecOn with
  | nil => exact h
  | append_singleton edits e ih =>
    rw [edited_append]
    cases he : ((c.edited edits).edit e).result with
    | error _ => exact ih
    | ok c' => exact edit_names ih he

/-- A run of edits of which no merge clashes repeats neither a name nor a build. -/
theorem edited_distinct (h : Distinct c.tarballs) (edits : List Edit)
    (hm : ∀ (k : ℕ) (other : Catalog), edits[k]? = some (.merge other) →
      Distinct other.tarballs ∧ ¬ (c.edited (edits.take k)).Clash other) :
    Distinct (c.edited edits).tarballs := by
  -- by the last edit, since `hm` speaks of what the edits before a merge have made
  induction edits using List.reverseRecOn with
  | nil => exact h
  | append_singleton edits e ih =>
    have hd := ih fun k other hk => by
      have hlt : k < edits.length := (List.getElem?_eq_some_iff.1 hk).1
      have hall := hm k other (by rw [List.getElem?_append_left hlt]; exact hk)
      rwa [List.take_append_of_le_length (Nat.le_of_lt hlt)] at hall
    have hlast : ∀ other, e = .merge other →
        Distinct other.tarballs ∧ ¬ (c.edited edits).Clash other := by
      rintro other rfl
      have hall := hm edits.length other (by simp)
      rwa [List.take_left] at hall
    rw [edited_append]
    cases he : ((c.edited edits).edit e).result with
    | error _ => exact hd
    | ok c' => exact edit_distinct hd hlast he

/-- **A run of edits repeats no name, and it repeats no build exactly if no merge
of it takes over a tarball under a new name whose build is there already.** -/
theorem edited_distinct_iff (hc : c.Opened) (edits : List Edit)
    (hv : ∀ other, .merge other ∈ edits → other.validate = .ok ()) :
    ((c.edited edits).tarballs.map (·.name)).Nodup ∧
      ((∀ k, checkUnique (c.edited (edits.take k)).tarballs = .ok ()) ↔
        ∀ (k : ℕ) (other : Catalog), edits[k]? = some (.merge other) →
          ¬ (c.edited (edits.take k)).Clash other) := by
  have hdistinct : ∀ (k : ℕ) (other : Catalog), edits[k]? = some (.merge other) →
      Distinct other.tarballs := fun k other hk =>
    (validate_ok_iff.1 (hv other (List.mem_of_getElem? hk))).2.1
  refine ⟨edited_names hc.distinct.names_nodup edits, ?_⟩
  simp only [checkUnique_ok_iff]
  constructor
  · intro h k other hk hclash
    -- the list that the merge leaves is the one of a longer part of the run
    obtain ⟨c', he, hrepeated⟩ := merge_of_clash (h k) (hdistinct k other hk) hclash
    have hnext := h (k + 1)
    rw [List.take_add_one, hk, Option.toList_some, edited_append, he] at hnext
    exact hrepeated hnext
  · intro h k
    refine edited_distinct hc.distinct (edits.take k) fun j other hj => ?_
    rw [List.getElem?_take] at hj
    split at hj
    · rename_i hjk
      rw [List.take_take, Nat.min_eq_left (Nat.le_of_lt hjk)]
      exact ⟨hdistinct j other hj, h j other hj⟩
    · exact nomatch hj

/-- A fresh catalog with one tarball is merged with a valid catalog that lists
the same build under another name. The merge succeeds, and the catalog can no
longer be kept. -/
theorem edited_repeats_build :
    let ours : Tarball :=
      { name := "a.tar.gz", checksum := "MD5:1", os := "Linux", arch := "amd64", url := "u",
        flavor := "mysql", shortVersion := "8.0", version := "8.0.1" }
    let other : Catalog := ⟨"0.5.1", "", [{ ours with name := "b.tar.gz" }]⟩
    Catalog.fresh.Opened ∧ other.validate = .ok () ∧
      checkUnique (Catalog.fresh.edited [.add ours, .merge other]).tarballs =
        .error (.repeatedBuild ours.build) := by
  exact ⟨.fresh, by decide +kernel, by decide +kernel⟩

/-- Two merges, of which the first brings a new build and the second one nothing
at all. -/
theorem edited_distinct_iff_merges :
    let ours : Tarball :=
      { name := "a.tar.gz", checksum := "MD5:1", os := "Linux", arch := "amd64", url := "u",
        flavor := "mysql", shortVersion := "8.0", version := "8.0.1" }
    let other : Catalog := ⟨"0.5.1", "", [{ ours with name := "b.tar.gz", version := "8.0.2" }]⟩
    let edits : List Edit := [.add ours, .merge other, .merge other]
    (Catalog.fresh.edited edits).tarballs.length = 2 ∧
      ∀ k, checkUnique (Catalog.fresh.edited (edits.take k)).tarballs = .ok () := by
  intro ours other edits
  have hvalid : other.validate = .ok () := by decide +kernel
  have hv : ∀ incoming, .merge incoming ∈ edits → incoming.validate = .ok () := by
    intro incoming hm
    have he : incoming = other := by simpa [edits] using hm
    exact he ▸ hvalid
  refine ⟨by decide +kernel, (edited_distinct_iff .fresh edits hv).2.2 ?_⟩
  rintro (_ | _ | _ | k) incoming hk
  · exact nomatch hk
  · cases hk
    decide +kernel
  · cases hk
    decide +kernel
  · exact nomatch hk

end Catalog

end ReleaseCatalog
