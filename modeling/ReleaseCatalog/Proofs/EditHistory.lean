import Mathlib.Data.Finset.Card
import ReleaseCatalog.Proofs.EditRuns

/-!
# A catalog as what its edits have put into it

Started from nothing, a catalog holds what the edits of its run have put into it
and no later edit has taken out, in the order in which it was put in. So it is a
map from names to tarballs that keeps the order of insertion.

* `Catalog.Puts`, `Catalog.put`: what an edit puts into a catalog, one by one
  and in order.
* `Catalog.edit_tarballs`: one edit leaves what it does not take out, and puts
  the new behind.
* `Catalog.edited_tarballs`: the whole list after a run.
* `Catalog.edited_history`: look-up by name, order, the number of new names,
  success and failure.
-/

namespace ReleaseCatalog

/-- The newcomers are the tarballs under new names, the first of each name. -/
theorem newcomers_eq_eraseDupsBy {l : List Tarball} :
    ∀ {names : List String},
      newcomers names l = (l.filter (·.name ∉ names)).eraseDupsBy fun t u => t.name == u.name := by
  induction l with
  | nil => exact fun {_} => rfl
  | cons t l ih =>
    intro names
    rw [newcomers]
    by_cases ht : t.name ∈ names
    · rw [if_pos ht, ih, List.filter_cons_of_neg (by simpa using ht)]
    · rw [if_neg ht, ih, List.filter_cons_of_pos (by simpa using ht), List.eraseDupsBy_cons,
        List.filter_filter]
      -- a name is new behind `t` if it is new and not that of `t`
      congr 2
      refine List.filter_congr fun u _ => ?_
      simp [List.mem_cons, not_or]

/-- A newcomer is the first tarball of its name. -/
theorem mem_newcomers_iff {l : List Tarball} {t : Tarball} :
    ∀ {names : List String},
      t ∈ newcomers names l ↔ t.name ∉ names ∧ l.find? (·.name = t.name) = some t := by
  induction l with
  | nil => exact fun {_} => iff_of_false List.not_mem_nil fun h => nomatch h.2
  | cons u l ih =>
    intro names
    rw [newcomers]
    by_cases hu : u.name ∈ names
    · rw [if_pos hu, ih]
      by_cases htu : u.name = t.name
      · exact iff_of_false (fun h => h.1 (htu ▸ hu)) fun h => h.1 (htu ▸ hu)
      · rw [List.find?_cons_of_neg (by simpa using htu)]
    · rw [if_neg hu, List.mem_cons, ih, List.mem_cons, not_or]
      by_cases htu : u.name = t.name
      · rw [List.find?_cons_of_pos (by simpa using htu), Option.some.injEq]
        constructor
        · rintro (rfl | ⟨⟨hne, -⟩, -⟩)
          · exact ⟨hu, rfl⟩
          · exact absurd htu.symm hne
        · rintro ⟨-, rfl⟩
          exact .inl rfl
      · rw [List.find?_cons_of_neg (by simpa using htu)]
        constructor
        · rintro (rfl | ⟨⟨-, hnew⟩, hfind⟩)
          · exact absurd rfl htu
          · exact ⟨hnew, hfind⟩
        · rintro ⟨hnew, hfind⟩
          exact .inr ⟨⟨Ne.symm htu, hnew⟩, hfind⟩

namespace Catalog

variable {c c' other : Catalog} {t u : Tarball} {e : Edit} {edits more : List Edit} {j k : ℕ}
  {name : String}

def names (c : Catalog) : List String := c.tarballs.map (·.name)

/-- What an edit needs to succeed: with the tarball that is added no name and no
build is repeated, the name that is removed is there, and neither of the
catalogs that are merged is empty. -/
def Admits (c : Catalog) : Edit → Prop
  | .add t => Distinct (c.tarballs ++ [t])
  | .remove name => name ∈ c.names
  | .merge other => c.tarballs ≠ [] ∧ other.tarballs ≠ []

theorem edit_isOk_iff : (∃ c', (c.edit e).result = .ok c') ↔ c.Admits e := by
  cases e with
  | add t =>
    show (∃ c', (c.add t).result = .ok c') ↔ Distinct (c.tarballs ++ [t])
    simp only [add_ok_iff, checkUnique_ok_iff, exists_and_left, exists_eq', and_true]
  | remove name =>
    show (∃ c', (c.remove name).result = .ok c') ↔ name ∈ c.tarballs.map (·.name)
    simp only [remove_ok_iff, exists_and_left, exists_eq', and_true, List.mem_map]
  | merge other =>
    show (∃ c', (c.merge other).result = .ok c') ↔ c.tarballs ≠ [] ∧ other.tarballs ≠ []
    simp only [merge_ok_iff, exists_and_left, exists_eq', and_true]

/-- The edit puts the tarball into the catalog: it is added, or it is taken over
by a merge, being the first one of the other catalog under a name that is new. -/
inductive Puts (c : Catalog) : Edit → Tarball → Prop where
  | add {t : Tarball} {c' : Catalog} (h : (c.add t).result = .ok c') : Puts c (.add t) t
  | merge {other c' : Catalog} {t : Tarball} (h : (c.merge other).result = .ok c')
      (hnew : t.name ∉ c.names)
      (hfirst : other.tarballs.find? (·.name = t.name) = some t) : Puts c (.merge other) t

/-- The tarballs that an edit puts into the catalog, in their order. -/
def put (c : Catalog) (e : Edit) : List Tarball :=
  if (c.edit e).result.isOk then
    match e with
    | .add t => [t]
    | .remove _ => []
    | .merge other =>
      (other.tarballs.filter (·.name ∉ c.names)).eraseDupsBy fun t u => t.name == u.name
  else []

/-- The edit takes the tarball of the name out of the catalog. -/
def takesOut (c : Catalog) (e : Edit) (name : String) : Bool :=
  match e with
  | .remove taken => taken = name && (c.edit e).result.isOk
  | _ => false

theorem mem_put_iff : t ∈ c.put e ↔ c.Puts e t := by
  unfold put
  cases he : (c.edit e).result with
  | error x =>
    rw [if_neg (by simp [Except.isOk, Except.toBool])]
    refine iff_of_false List.not_mem_nil fun h => ?_
    -- what is put in is put in by an edit that succeeds
    cases h with
    | add h => exact nomatch he.symm.trans h
    | merge h _ _ => exact nomatch he.symm.trans h
  | ok c' =>
    simp only [Except.isOk, Except.toBool, if_true]
    cases e with
    | add u =>
      show t ∈ [u] ↔ _
      rw [List.mem_singleton]
      constructor
      · rintro rfl
        exact .add he
      · rintro (h | _)
        rfl
    | remove taken => exact iff_of_false List.not_mem_nil fun h => nomatch h
    | merge other =>
      show t ∈ (other.tarballs.filter _).eraseDupsBy _ ↔ _
      rw [← newcomers_eq_eraseDupsBy, mem_newcomers_iff]
      constructor
      · rintro ⟨hnew, hfirst⟩
        exact .merge he hnew hfirst
      · rintro (_ | ⟨_, hnew, hfirst⟩)
        exact ⟨hnew, hfirst⟩

/-- What is put in has a name that is new. -/
theorem Puts.name_new (h : c.Puts e t) : t.name ∉ c.names := by
  cases h with
  | add h =>
    obtain ⟨hu, -⟩ := add_ok_iff.1 h
    obtain ⟨-, hnew⟩ := distinct_concat_iff.1 (checkUnique_ok_iff.1 hu)
    intro hmem
    obtain ⟨u, hu, he⟩ := List.mem_map.1 hmem
    exact (hnew u hu).1 he
  | merge _ hnew _ => exact hnew

/-- **An edit leaves what it does not take out, in the order it had, and puts
the new behind.** -/
theorem edit_tarballs (c : Catalog) (e : Edit) :
    ((c.edit e).result.toOption.getD c).tarballs =
      c.tarballs.filter (fun t => ! c.takesOut e t.name) ++ c.put e := by
  unfold put takesOut
  cases he : (c.edit e).result with
  | error x => cases e <;> simp [Except.isOk, Except.toBool, Except.toOption]
  | ok c' =>
    simp only [Except.toOption, Option.getD_some, Except.isOk, Except.toBool,
      Bool.and_true, if_true]
    cases e with
    | add t =>
      obtain ⟨-, rfl⟩ := add_ok_iff.1 he
      simp
    | remove taken =>
      obtain ⟨-, rfl⟩ := remove_ok_iff.1 he
      simp [eq_comm]
    | merge other =>
      obtain ⟨-, -, rfl⟩ := merge_ok_iff.1 he
      simp [newcomers_eq_eraseDupsBy, names]

/-! ### Runs -/

/-- The edit at a position of a run puts the tarball into the catalog that it
meets. -/
def PutsAt (c : Catalog) (edits : List Edit) (k : ℕ) (t : Tarball) : Prop :=
  ∃ e, edits[k]? = some e ∧ (c.edited (edits.take k)).Puts e t

/-- What the edit at a position of a run puts into the catalog that it meets, in
order. -/
def putAt (c : Catalog) (edits : List Edit) (k : ℕ) : List Tarball :=
  match edits[k]? with
  | some e => (c.edited (edits.take k)).put e
  | none => []

/-- The edit at a position of a run takes the tarball of the name out of the
catalog that it meets. -/
def takesOutAt (c : Catalog) (edits : List Edit) (k : ℕ) (name : String) : Bool :=
  match edits[k]? with
  | some e => (c.edited (edits.take k)).takesOut e name
  | none => false

/-- No edit of a run behind a position takes the tarball of the name out. -/
def StaysFrom (c : Catalog) (edits : List Edit) (k : ℕ) (name : String) : Prop :=
  ∀ j < edits.length, k < j → ¬ c.takesOutAt edits j name

instance (c : Catalog) (edits : List Edit) (k : ℕ) (name : String) :
    Decidable (c.StaysFrom edits k name) :=
  inferInstanceAs (Decidable (∀ j < edits.length, _ → _))

theorem mem_putAt_iff : t ∈ c.putAt edits k ↔ c.PutsAt edits k t := by
  unfold putAt PutsAt
  cases edits[k]? with
  | none => simp
  | some e => simp [mem_put_iff]

/-- What an edit does does not depend on the edits behind it. -/
theorem putAt_take (h : k < j) : c.putAt (edits.take j) k = c.putAt edits k := by
  unfold putAt
  rw [List.getElem?_take_of_lt h, List.take_take, Nat.min_eq_left (Nat.le_of_lt h)]

theorem takesOutAt_take (h : k < j) :
    c.takesOutAt (edits.take j) k name = c.takesOutAt edits k name := by
  unfold takesOutAt
  rw [List.getElem?_take_of_lt h, List.take_take, Nat.min_eq_left (Nat.le_of_lt h)]

theorem putAt_append (h : k < edits.length) : c.putAt (edits ++ more) k = c.putAt edits k := by
  have htake : c.putAt ((edits ++ more).take edits.length) k = _ := putAt_take h
  rwa [List.take_left, eq_comm] at htake

theorem takesOutAt_append (h : k < edits.length) :
    c.takesOutAt (edits ++ more) k name = c.takesOutAt edits k name := by
  have htake : c.takesOutAt ((edits ++ more).take edits.length) k name = _ := takesOutAt_take h
  rwa [List.take_left, eq_comm] at htake

theorem putAt_last : c.putAt (edits ++ [e]) edits.length = (c.edited edits).put e := by
  unfold putAt
  simp

theorem takesOutAt_last :
    c.takesOutAt (edits ++ [e]) edits.length name = (c.edited edits).takesOut e name := by
  unfold takesOutAt
  simp

theorem putsAt_lt (h : c.PutsAt edits k t) : k < edits.length := by
  obtain ⟨e, he, -⟩ := h
  exact (List.getElem?_eq_some_iff.1 he).1

/-- A tarball stays through one edit more if that does not take it out, either. -/
theorem staysFrom_concat (h : k < edits.length) :
    c.StaysFrom (edits ++ [e]) k name ↔
      c.StaysFrom edits k name ∧ ¬ (c.edited edits).takesOut e name := by
  unfold StaysFrom
  rw [List.length_append, List.length_singleton]
  constructor
  · intro hstays
    refine ⟨fun j hj hkj => ?_, ?_⟩
    · have hnot := hstays j (by omega) hkj
      rwa [takesOutAt_append hj] at hnot
    · have hnot := hstays edits.length (by omega) h
      rwa [takesOutAt_last] at hnot
  · rintro ⟨hstays, hlast⟩ j hj hkj
    rcases Nat.lt_succ_iff_lt_or_eq.1 hj with hj | rfl
    · rw [takesOutAt_append hj]
      exact hstays j hj hkj
    · rwa [takesOutAt_last]

theorem staysFrom_last : c.StaysFrom (edits ++ [e]) edits.length name := by
  intro j hj hlt
  rw [List.length_append, List.length_singleton] at hj
  omega

/-- **After a run a catalog that was empty holds what each edit has put in and
no later one has taken out, edit by edit.** -/
theorem edited_tarballs (hc : c.tarballs = []) (edits : List Edit) :
    (c.edited edits).tarballs =
      (List.range edits.length).flatMap fun k =>
        (c.putAt edits k).filter fun t => c.StaysFrom edits k t.name := by
  induction edits using List.reverseRecOn with
  | nil => exact hc
  | append_singleton edits e ih =>
    rw [edited_append, edit_tarballs, ih, List.length_append, List.length_singleton,
      List.range_succ, List.flatMap_append, List.filter_flatMap]
    congr 1
    · -- what was put in before the last edit stays if that does not take it out
      refine List.flatMap_congr fun k hk => ?_
      have hlt := List.mem_range.1 hk
      rw [List.filter_filter, putAt_append hlt]
      refine List.filter_congr fun t _ => ?_
      rw [Bool.eq_iff_iff, Bool.and_eq_true, decide_eq_true_iff, decide_eq_true_iff,
        Bool.not_eq_true', staysFrom_concat hlt, Bool.not_eq_true, and_comm]
    · -- what the last edit puts in stays
      rw [List.flatMap_singleton, putAt_last, List.filter_eq_self.2]
      intro t _
      exact decide_eq_true staysFrom_last

/-- A catalog that was empty holds what an edit has put in and no later one has
taken out. -/
theorem mem_edited_iff (hc : c.tarballs = []) :
    t ∈ (c.edited edits).tarballs ↔ ∃ k, c.PutsAt edits k t ∧ c.StaysFrom edits k t.name := by
  rw [edited_tarballs hc, List.mem_flatMap]
  simp only [List.mem_range, List.mem_filter, decide_eq_true_iff, mem_putAt_iff]
  constructor
  · rintro ⟨k, -, hput, hstays⟩
    exact ⟨k, hput, hstays⟩
  · rintro ⟨k, hput, hstays⟩
    exact ⟨k, putsAt_lt hput, hput, hstays⟩

/-! ### Look-up -/

theorem findName_ok_iff (h : c.names.Nodup) :
    c.findName name = .ok t ↔ t ∈ c.tarballs ∧ t.name = name := by
  unfold findName
  cases hfind : c.tarballs.find? (·.name = name) with
  | none =>
    refine iff_of_false (fun h => nomatch h) fun ⟨ht, he⟩ => ?_
    exact List.find?_eq_none.1 hfind t ht (decide_eq_true he)
  | some u =>
    have hu := List.mem_of_find?_eq_some hfind
    have hname : u.name = name := by simpa using List.find?_some hfind
    rw [Except.ok.injEq]
    constructor
    · rintro rfl
      exact ⟨hu, hname⟩
    · rintro ⟨ht, he⟩
      exact List.inj_on_of_nodup_map h hu ht (hname.trans he.symm)

theorem findName_error_iff :
    c.findName name = .error (.noSuchName name) ↔ ∀ t ∈ c.tarballs, t.name ≠ name := by
  unfold findName
  cases hfind : c.tarballs.find? (·.name = name) with
  | none =>
    refine iff_of_true rfl fun t ht he => ?_
    exact List.find?_eq_none.1 hfind t ht (decide_eq_true he)
  | some u =>
    refine iff_of_false (fun h => nomatch h) fun h => ?_
    exact h u (List.mem_of_find?_eq_some hfind) (by simpa using List.find?_some hfind)

/-- The edit at a position of a run puts the tarball into the catalog, and no
edit behind it puts another one of its name there or takes it out. -/
structure PutsLast (c : Catalog) (edits : List Edit) (k : ℕ) (t : Tarball) : Prop where
  puts : c.PutsAt edits k t
  last : ∀ j u, k < j → c.PutsAt edits j u → u.name ≠ t.name
  stays : c.StaysFrom edits k t.name

/-- While a tarball stays, none of its name is put in. -/
theorem putsLast_iff (hc : c.tarballs = []) :
    c.PutsLast edits k t ↔ c.PutsAt edits k t ∧ c.StaysFrom edits k t.name := by
  refine ⟨fun h => ⟨h.puts, h.stays⟩, fun ⟨hput, hstays⟩ => ⟨hput, fun j u hkj hu he => ?_, hstays⟩⟩
  -- the edits in front of `j` leave `t` in the catalog, so its name is not new at `j`
  have hmem : t ∈ (c.edited (edits.take j)).tarballs := by
    refine (mem_edited_iff hc).2 ⟨k, ?_, fun i hi hki => ?_⟩
    · rw [← mem_putAt_iff, putAt_take hkj, mem_putAt_iff]
      exact hput
    · rw [List.length_take] at hi
      rw [takesOutAt_take (by omega)]
      exact hstays i (by omega) hki
  obtain ⟨e, -, hputs⟩ := hu
  exact hputs.name_new (he ▸ List.mem_map_of_mem hmem)

/-- Merging counts the names that are new. -/
theorem mergeCounting_result (h : c.names.Nodup) :
    (c.mergeCounting other).result =
      (c.edit (.merge other)).result.map fun c' =>
        (c', (c'.names.toFinset \ c.names.toFinset).card) := by
  unfold mergeCounting edit
  rw [Report.result_bind]
  cases hm : (c.merge other).result with
  | error err => rfl
  | ok c' =>
    obtain ⟨-, -, rfl⟩ := merge_ok_iff.1 hm
    refine congrArg (fun n => Except.ok (_, n)) ?_
    have hnames : ((c.tarballs ++ newcomers c.names other.tarballs).map (·.name)).Nodup :=
      merged_names h
    have hsub : c.names.toFinset ⊆
        ((c.tarballs ++ newcomers c.names other.tarballs).map (·.name)).toFinset := by
      intro name hname
      rw [List.mem_toFinset] at hname ⊢
      rw [List.map_append]
      exact List.mem_append_left _ hname
    -- no name is repeated, so there are as many names as tarballs
    show _ = (((c.tarballs ++ newcomers c.names other.tarballs).map (·.name)).toFinset \
        c.names.toFinset).card
    rw [Finset.card_sdiff_of_subset hsub, List.toFinset_card_of_nodup hnames,
      List.toFinset_card_of_nodup h, List.length_map, names, List.length_map]

/-- **A catalog that a run has made from nothing is a map from names to tarballs
that keeps the order of insertion.**

At every point of the run no name is repeated. The tarballs are those that each edit
has put in and no later one has taken out, edit by edit. Looking up a name gives the
tarball that was put there last, if it was not taken out since, and otherwise there
is none. Merging counts the names that are new. An edit succeeds exactly if the
catalog admits it, and one that fails leaves the catalog as it was. -/
theorem edited_history (edits : List Edit) :
    let c := fresh.edited edits
    c.names.Nodup ∧
      c.tarballs = ((List.range edits.length).flatMap fun k =>
        (fresh.putAt edits k).filter fun t => fresh.StaysFrom edits k t.name) ∧
      (∀ name t, c.findName name = .ok t ↔ t.name = name ∧ ∃ k, fresh.PutsLast edits k t) ∧
      (∀ name, c.findName name = .error (.noSuchName name) ↔
        ∀ k t, fresh.PutsAt edits k t → t.name = name → ¬ fresh.StaysFrom edits k name) ∧
      (∀ other, (c.mergeCounting other).result =
        (c.edit (.merge other)).result.map fun c' =>
          (c', (c'.names.toFinset \ c.names.toFinset).card)) ∧
      (∀ e, (∃ c', (c.edit e).result = .ok c') ↔ c.Admits e) ∧
      ∀ e err, (c.edit e).result = .error err → fresh.edited (edits ++ [e]) = c := by
  intro c
  have hempty : fresh.tarballs = [] := rfl
  have hnames : c.names.Nodup := edited_names (c := fresh) List.nodup_nil edits
  refine ⟨hnames, edited_tarballs hempty edits, ?_, ?_, fun other => mergeCounting_result hnames,
    fun e => edit_isOk_iff, ?_⟩
  · intro name t
    rw [findName_ok_iff hnames, mem_edited_iff hempty, and_comm]
    simp only [putsLast_iff hempty]
  · intro name
    rw [findName_error_iff]
    constructor
    · rintro hnone k t hput rfl hstays
      exact hnone t ((mem_edited_iff hempty).2 ⟨k, hput, hstays⟩) rfl
    · rintro hundone t ht rfl
      obtain ⟨k, hput, hstays⟩ := (mem_edited_iff hempty).1 ht
      exact hundone k t hput rfl hstays
  · intro e err he
    rw [edited_append, he]
    rfl

/-- A tarball is removed and put back with another address. The merge takes over
the first of two tarballs under one name, and none under the name that is there;
adding a name twice fails. -/
theorem edited_history_put_back :
    let ours : Tarball :=
      { name := "a.tar.gz", checksum := "MD5:1", os := "Linux", arch := "amd64", url := "u",
        flavor := "mysql", shortVersion := "8.0", version := "8.0.1" }
    let theirs : Tarball := { ours with name := "b.tar.gz", version := "8.0.2" }
    let moved : Tarball := { ours with url := "v" }
    let other : Catalog := ⟨"0.5.1", "", [theirs, { theirs with version := "8.0.3" }, moved]⟩
    let edits : List Edit := [.add ours, .merge other, .remove "a.tar.gz", .add moved, .add ours]
    (fresh.edited edits).tarballs = [theirs, moved] ∧ (∃ k, fresh.PutsLast edits k moved) ∧
      ¬ fresh.StaysFrom edits 0 "a.tar.gz" ∧
      ((fresh.edited (edits.take 1)).mergeCounting other).result =
        .ok (fresh.edited (edits.take 2), 1) := by
  intro ours theirs moved other edits
  have hfind : (fresh.edited edits).findName "a.tar.gz" = .ok moved := by decide +kernel
  refine ⟨by decide +kernel, (((edited_history edits).2.2.1 _ _).1 hfind).2, by decide +kernel, ?_⟩
  rw [(edited_history (edits.take 1)).2.2.2.2.1]
  decide +kernel

end Catalog

end ReleaseCatalog
