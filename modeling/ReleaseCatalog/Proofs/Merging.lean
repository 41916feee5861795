import ReleaseCatalog.Proofs.EditHistory
import ReleaseCatalog.Proofs.Outcome

/-!
# Merging as an operation on catalogs

What a merge takes over depends on which names were seen before, and on nothing
else of what was seen. So it does not matter in which order several catalogs are
merged, and merging one again adds nothing.

* `newcomers_append`, `newcomers_newcomers`: newcomers of a list in two parts,
  and of newcomers.
* `Catalog.union`: a catalog with what another one has under new names.
* `Catalog.union_assoc`, `Catalog.union_absorb`: the laws of it, for all
  catalogs, empty ones too.
* `Catalog.merge_laws`: the same of merging, which fails exactly where a catalog
  is empty.
-/

namespace ReleaseCatalog

variable {l l' : List Tarball} {names seen names' : List String}

/-- Which names were seen is all that matters. -/
theorem newcomers_congr (h : ∀ name, name ∈ names ↔ name ∈ names') :
    newcomers names l = newcomers names' l := by
  simp only [newcomers_eq_eraseDupsBy, h]

/-- There are no newcomers if all names were seen. -/
theorem newcomers_eq_nil (h : ∀ t ∈ l, t.name ∈ names) : newcomers names l = [] := by
  rw [newcomers_eq_eraseDupsBy, List.filter_eq_nil_iff.2]
  · rfl
  · intro t ht
    simpa using h t ht

/-- **The names of the first part of a list are seen in the second.** -/
theorem newcomers_append (l l' : List Tarball) (names : List String) :
    newcomers names (l ++ l') = newcomers names l ++ newcomers (names ++ l.map (·.name)) l' := by
  induction l generalizing names with
  | nil => rw [List.nil_append, List.map_nil, List.append_nil]; rfl
  | cons t l ih =>
    rw [List.cons_append, newcomers, newcomers, List.map_cons]
    by_cases ht : t.name ∈ names
    · rw [if_pos ht, if_pos ht, ih]
      congr 1
      refine newcomers_congr fun name => ?_
      by_cases hname : name = t.name <;> simp [hname, ht]
    · rw [if_neg ht, if_neg ht, ih, List.cons_append]
      congr 2
      refine newcomers_congr fun name => ?_
      simp only [List.mem_cons, List.mem_append]
      exact or_left_comm

/-- **A newcomer to newcomers is new to all that was seen on either side.** -/
theorem newcomers_newcomers (l : List Tarball) (names seen : List String) :
    newcomers names (newcomers seen l) = newcomers (names ++ seen) l := by
  induction l generalizing names seen with
  | nil => rfl
  | cons t l ih =>
    by_cases hseen : t.name ∈ seen
    · rw [newcomers, if_pos hseen, ih, newcomers, if_pos (List.mem_append_right _ hseen)]
    · rw [newcomers, if_neg hseen, newcomers, newcomers, ih, ih]
      by_cases ht : t.name ∈ names
      · rw [if_pos ht, if_pos (List.mem_append_left _ ht)]
        refine newcomers_congr fun name => ?_
        by_cases hname : name = t.name <;> simp [hname, ht]
      · rw [if_neg ht, if_neg (by rw [List.mem_append, not_or]; exact ⟨ht, hseen⟩)]
        congr 1
        refine newcomers_congr fun name => ?_
        simp only [List.cons_append, List.mem_cons, List.mem_append]
        tauto

/-- With the newcomers of a list all its names are there. -/
theorem mem_names_append_newcomers {name : String} :
    name ∈ names ++ (newcomers names l).map (·.name) ↔ name ∈ names ++ l.map (·.name) := by
  rw [List.mem_append, List.mem_append]
  induction l generalizing names with
  | nil => rfl
  | cons t l ih =>
    rw [newcomers]
    by_cases ht : t.name ∈ names
    · rw [if_pos ht, ih, List.map_cons, List.mem_cons]
      by_cases hname : name = t.name
      · simp [hname, ht]
      · simp [hname]
    · have ih' := @ih (t.name :: names)
      rw [List.mem_cons, or_assoc, or_assoc] at ih'
      rw [if_neg ht, List.map_cons, List.mem_cons, List.map_cons, List.mem_cons, or_left_comm,
        ih', or_left_comm]

namespace Catalog

variable {a b c m : Catalog}

/-- The catalog with the tarballs of another one that have a new name, the first
of each name, behind its own; of this tool's version. -/
def union (a b : Catalog) : Catalog where
  schemaVersion := toolVersion
  updatedOn := a.updatedOn
  tarballs :=
    a.tarballs ++ (b.tarballs.filter (·.name ∉ a.names)).eraseDupsBy fun t u => t.name == u.name

theorem tarballs_union (a b : Catalog) :
    (a.union b).tarballs = a.tarballs ++ newcomers a.names b.tarballs := by
  rw [newcomers_eq_eraseDupsBy]
  rfl

theorem mem_names_union {name : String} : name ∈ (a.union b).names ↔ name ∈ a.names ++ b.names := by
  unfold names
  rw [tarballs_union, List.map_append]
  exact mem_names_append_newcomers

theorem union_congr {a' b' : Catalog} (hupdated : a.updatedOn = a'.updatedOn)
    (htarballs : (a.union b).tarballs = (a'.union b').tarballs) : a.union b = a'.union b' := by
  show (⟨_, _, _⟩ : Catalog) = ⟨_, _, _⟩
  rw [Catalog.mk.injEq]
  exact ⟨rfl, hupdated, htarballs⟩

/-- **It does not matter which of three catalogs are put together first.** -/
theorem union_assoc (a b c : Catalog) : (a.union b).union c = a.union (b.union c) := by
  refine union_congr rfl ?_
  have hseen : newcomers (a.union b).names c.tarballs = newcomers (a.names ++ b.names) c.tarballs :=
    newcomers_congr fun _ => mem_names_union
  have hagain : newcomers (a.names ++ b.names) (newcomers b.names c.tarballs) =
      newcomers (a.names ++ b.names) c.tarballs := by
    rw [newcomers_newcomers]
    exact newcomers_congr fun name => by simp
  calc ((a.union b).union c).tarballs
      = a.tarballs ++ newcomers a.names b.tarballs ++
        newcomers (a.names ++ b.names) c.tarballs := by
        rw [tarballs_union, hseen, tarballs_union]
    _ = a.tarballs ++ (newcomers a.names b.tarballs ++
          newcomers (a.names ++ b.names) (newcomers b.names c.tarballs)) := by
        rw [hagain, List.append_assoc]
    _ = a.tarballs ++ newcomers a.names (b.tarballs ++ newcomers b.names c.tarballs) := by
        rw [newcomers_append]
        rfl
    _ = (a.union (b.union c)).tarballs := by
        rw [tarballs_union a, tarballs_union b]

/-- **A catalog without a new name adds nothing to what was put together.** -/
theorem union_absorb (h : ∀ name ∈ c.names, name ∈ a.names ++ b.names) :
    (a.union b).union c = a.union b := by
  refine union_congr rfl ?_
  rw [tarballs_union _ c, newcomers_eq_nil, List.append_nil]
  intro t ht
  exact mem_names_union.2 (h _ (List.mem_map_of_mem ht))

/-- **What a merge comes to.** -/
theorem merge_result (a b : Catalog) :
    (a.merge b).result =
      if a.tarballs = [] then .error .emptyOrigin
      else if b.tarballs = [] then .error .emptyAddition
      else .ok (a.union b) := by
  have hok : a.tarballs ≠ [] → b.tarballs ≠ [] → (a.merge b).result = .ok (a.union b) := by
    intro ha hb
    refine merge_ok_iff.2 ⟨ha, hb, ?_⟩
    unfold union
    rw [← newcomers_eq_eraseDupsBy]
    rfl
  by_cases ha : a.tarballs = []
  · rw [if_pos ha]
    unfold merge
    rw [if_pos ha]
    rfl
  · by_cases hb : b.tarballs = []
    · rw [if_neg ha, if_pos hb]
      unfold merge
      rw [if_neg ha, if_pos hb]
      rfl
    · rw [if_neg ha, if_neg hb, hok ha hb]

theorem merge_outcome (a b : Catalog) :
    (a.merge b).outcome =
      if a.tarballs ≠ [] ∧ b.tarballs ≠ [] then .ok (a.union b) else .error .invalidArgument := by
  unfold Report.outcome
  rw [merge_result]
  by_cases ha : a.tarballs = [] <;> by_cases hb : b.tarballs = [] <;> simp [ha, hb] <;> rfl

theorem tarballs_union_ne_nil (h : a.tarballs ≠ []) : (a.union b).tarballs ≠ [] := by
  rw [tarballs_union]
  exact List.append_ne_nil_of_left_ne_nil h _

/-- Merging from the left. -/
theorem merge_merge_outcome (a b c : Catalog) :
    (a.merge b >>= (·.merge c)).outcome =
      if a.tarballs ≠ [] ∧ b.tarballs ≠ [] ∧ c.tarballs ≠ [] then .ok ((a.union b).union c)
      else .error .invalidArgument := by
  rw [Report.outcome_bind, merge_outcome]
  by_cases h : a.tarballs ≠ [] ∧ b.tarballs ≠ []
  · rw [if_pos h]
    show ((a.union b).merge c).outcome = _
    rw [merge_outcome]
    simp only [ne_eq, tarballs_union_ne_nil h.1, h.1, h.2, not_false_eq_true, true_and]
  · rw [if_neg h, if_neg fun hall => h ⟨hall.1, hall.2.1⟩]
    rfl

/-- Merging from the right. -/
theorem merge_outcome_merge (a b c : Catalog) :
    (b.merge c >>= (a.merge ·)).outcome =
      if a.tarballs ≠ [] ∧ b.tarballs ≠ [] ∧ c.tarballs ≠ [] then .ok (a.union (b.union c))
      else .error .invalidArgument := by
  rw [Report.outcome_bind, merge_outcome]
  by_cases h : b.tarballs ≠ [] ∧ c.tarballs ≠ []
  · rw [if_pos h]
    show (a.merge (b.union c)).outcome = _
    rw [merge_outcome]
    simp only [ne_eq, tarballs_union_ne_nil h.1, h.1, h.2, not_false_eq_true, and_true]
  · rw [if_neg h, if_neg fun hall => h hall.2]
    rfl

/-- A tarball of two catalogs put together is one of the first, or the first of
its name in the second. -/
theorem mem_union_iff {t : Tarball} :
    t ∈ (a.union b).tarballs ↔
      t ∈ a.tarballs ∨ t.name ∉ a.names ∧ b.tarballs.find? (·.name = t.name) = some t := by
  rw [tarballs_union, List.mem_append, mem_newcomers_iff]

/-- **Merging is associative, and merging a catalog again changes nothing.**

Two catalogs that are not empty are merged to the tarballs of the first and
behind them, in their order, those of the second that are the first under a name
which the first does not have. Where one is empty the argument is invalid.
Whether the first two or the last two of three are merged before the other one,
the outcome is the same, and it is updated when the first catalog was. -/
theorem merge_laws (a b c : Catalog) :
    (∀ m, (a.merge b).result = .ok m ↔ (a.tarballs ≠ [] ∧ b.tarballs ≠ []) ∧ m = a.union b) ∧
    (∀ t, t ∈ (a.union b).tarballs ↔
      t ∈ a.tarballs ∨ t.name ∉ a.names ∧ b.tarballs.find? (·.name = t.name) = some t) ∧
    ((a.merge b).outcome = .error .invalidArgument ↔ a.tarballs = [] ∨ b.tarballs = []) ∧
    (a.merge b >>= (·.merge c)).outcome = (b.merge c >>= (a.merge ·)).outcome ∧
    (a.merge b >>= (·.merge b)).outcome = (a.merge b).outcome ∧
    (a.merge b >>= (·.merge a)).outcome = (a.merge b).outcome ∧
    ∀ m, (a.merge b >>= (·.merge c)).result = .ok m ↔
      (a.tarballs ≠ [] ∧ b.tarballs ≠ [] ∧ c.tarballs ≠ []) ∧ m = (a.union b).union c ∧
        m.updatedOn = a.updatedOn := by
  have habsorb (d : Catalog) (hd : ∀ name ∈ d.names, name ∈ a.names ++ b.names)
      (hne : a.tarballs ≠ [] ∧ b.tarballs ≠ [] → d.tarballs ≠ []) :
      (a.merge b >>= (·.merge d)).outcome = (a.merge b).outcome := by
    rw [merge_merge_outcome, merge_outcome, union_absorb hd]
    refine if_congr ?_ rfl rfl
    tauto
  refine ⟨fun m => ?_, fun t => mem_union_iff, ?_, ?_, habsorb b ?_ And.right,
    habsorb a ?_ And.left, fun m => ?_⟩
  · rw [← Report.outcome_ok_iff, merge_outcome]
    split <;> simp_all [eq_comm]
  · rw [merge_outcome]
    split <;> simp_all [or_iff_not_imp_left]
  · rw [merge_merge_outcome, merge_outcome_merge, union_assoc]
  · exact fun name => List.mem_append_right _
  · exact fun name => List.mem_append_left _
  · rw [← Report.outcome_ok_iff, merge_merge_outcome]
    constructor
    · intro h
      split at h
      · obtain rfl := Except.ok.inj h
        exact ⟨‹_›, rfl, rfl⟩
      · exact nomatch h
    · rintro ⟨hne, rfl, -⟩
      rw [if_pos hne]

end Catalog

end ReleaseCatalog
