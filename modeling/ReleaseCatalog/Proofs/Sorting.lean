import ReleaseCatalog.Proofs.CatalogOrder

/-!
# Sorting by any key

Each key compares tarballs by a total order, dates included: those that can be
read stand before those that cannot, and each kind has an order of its own. So a
list has exactly one arrangement in which the order of the key is kept and
tarballs that the key does not tell apart stay as they were, and sorting finds it.

* `SortKey.compareDates_trans`: the order of free-form dates is total.
* `SortKey.Sorts.unique`: there is one arrangement only.
* `sorted_filter`: what a key does not tell apart keeps its order.
* `sorted_stable`: all of it, for every key.
-/

namespace ReleaseCatalog

open Std

instance : TransCmp Day.compare :=
  inferInstanceAs <| TransCmp <| compareLex (compareOn Day.year) <|
    compareLex (compareOn Day.month) (compareOn Day.day)

instance : TransCmp Clock.compare :=
  inferInstanceAs <| TransCmp <| compareLex (compareOn Clock.hour) <|
    compareLex (compareOn Clock.minute) <|
    compareLex (compareOn Clock.second) (compareOn Clock.nano)

/-- **The chronological order is total.** -/
instance : TransCmp Timestamp.compare :=
  have := transCmp_field Day.compare Timestamp.day
  have := transCmp_field Clock.compare Timestamp.clock
  inferInstanceAs <| TransCmp <| compareLex (fun s t : Timestamp => s.day.compare t.day) fun s t =>
    s.clock.compare t.clock

namespace SortKey

variable {key : SortKey} {t u v : Tarball} {l s s' : List Tarball}

theorem compareDates_eq (a b : String) :
    compareDates a b = match Timestamp.ofText? a, Timestamp.ofText? b with
      | some s, some t => s.compare t
      | some _, none => .lt
      | none, some _ => .gt
      | none, none => Ord.compare a b := rfl

/-- **The order of free-form dates is total**, though it is made from two orders. -/
instance compareDates_trans : TransCmp compareDates where
  eq_swap {a b} := by
    rw [compareDates_eq, compareDates_eq]
    cases Timestamp.ofText? a with
    | none =>
      cases Timestamp.ofText? b with
      | none =>
        show Ord.compare a b = (Ord.compare b a).swap
        exact OrientedCmp.eq_swap
      | some t => rfl
    | some s =>
      cases Timestamp.ofText? b with
      | none => rfl
      | some t =>
        show s.compare t = (t.compare s).swap
        exact OrientedCmp.eq_swap
  isLE_trans {a b c} hab hbc := by
    rw [compareDates_eq] at hab hbc ⊢
    -- a date that cannot be read has only such dates behind it
    cases ha : Timestamp.ofText? a with
    | none =>
      cases hb : Timestamp.ofText? b with
      | none =>
        cases hc : Timestamp.ofText? c with
        | none =>
          have hab : (Ord.compare a b).isLE := by rwa [ha, hb] at hab
          have hbc : (Ord.compare b c).isLE := by rwa [hb, hc] at hbc
          show (Ord.compare a c).isLE
          exact TransCmp.isLE_trans hab hbc
        | some w =>
          rw [hb, hc] at hbc
          exact nomatch hbc
      | some t =>
        rw [ha, hb] at hab
        exact nomatch hab
    | some s =>
      cases hc : Timestamp.ofText? c with
      | none => rfl
      | some w =>
        cases hb : Timestamp.ofText? b with
        | none =>
          rw [hb, hc] at hbc
          exact nomatch hbc
        | some t =>
          have hst : (s.compare t).isLE := by rwa [ha, hb] at hab
          have htw : (t.compare w).isLE := by rwa [hb, hc] at hbc
          show (s.compare w).isLE
          exact TransCmp.isLE_trans hst htw

/-- **Every key orders tarballs totally.** -/
instance compare_trans (key : SortKey) : TransCmp key.compare :=
  match key with
  | allFields => compare_allFields_trans
  | date => transCmp_field compareDates Tarball.dateAdded
  | name => transCmp_field Ord.compare Tarball.name
  | shortVersion => transCmp_field compareVersions Tarball.shortVersion
  | version => compare_version_trans

theorem compare_trans_ne_gt (htu : key.compare t u ≠ .gt) (huv : key.compare u v ≠ .gt) :
    key.compare t v ≠ .gt := by
  have htu := Ordering.isLE_iff_ne_gt.2 htu
  have huv := Ordering.isLE_iff_ne_gt.2 huv
  exact Ordering.isLE_iff_ne_gt.1 (TransCmp.isLE_trans htu huv)

/-- Of two tarballs that are not above each other, the key does not tell one
from the other. -/
theorem compare_eq_of_ne_gt (htu : key.compare t u ≠ .gt) (hut : key.compare u t ≠ .gt) :
    key.compare t u = .eq := by
  have hswap : key.compare u t = (key.compare t u).swap := OrientedCmp.eq_swap
  rw [hswap] at hut
  cases hc : key.compare t u with
  | lt =>
    rw [hc] at hut
    exact absurd rfl hut
  | eq => rfl
  | gt => exact absurd hc htu

/-- A list is another one in the order of a key, and tarballs that the key does
not tell apart stand in it as they stand there. -/
structure Sorts (key : SortKey) (l s : List Tarball) : Prop where
  perm : s.Perm l
  ordered : s.Pairwise fun t u => key.compare t u ≠ .gt
  stable : ∀ t, s.filter (fun u => key.compare t u = .eq) =
    l.filter (fun u => key.compare t u = .eq)

theorem mem_of_stable (h : ∀ t,
    s.filter (fun u => key.compare t u = .eq) = s'.filter (fun u => key.compare t u = .eq))
    (ht : t ∈ s) : t ∈ s' := by
  have hself : key.compare t t = .eq := ReflCmp.compare_self
  have hmem : t ∈ s.filter (fun u => key.compare t u = .eq) :=
    List.mem_filter.2 ⟨ht, decide_eq_true hself⟩
  rw [h t] at hmem
  exact (List.mem_filter.1 hmem).1

/-- Nothing stands above the first tarball of a list in order. -/
theorem head_ne_gt (h : (t :: s).Pairwise fun a b => key.compare a b ≠ .gt) (hu : u ∈ t :: s) :
    key.compare t u ≠ .gt := by
  rcases List.mem_cons.1 hu with rfl | hu
  · have hself : key.compare u u = .eq := ReflCmp.compare_self
    rw [hself]
    decide
  · exact List.rel_of_pairwise_cons h hu

/-- If a filter takes the same from two lists with the same first tarball, it
takes the same from the rest. -/
theorem filter_rest {p : Tarball → Bool} (h : (t :: s).filter p = (t :: s').filter p) :
    s.filter p = s'.filter p := by
  by_cases ht : p t = true
  · rw [List.filter_cons_of_pos ht, List.filter_cons_of_pos ht] at h
    exact (List.cons.inj h).2
  · rwa [List.filter_cons_of_neg ht, List.filter_cons_of_neg ht] at h

/-- **Two lists in order are the same if they agree on what the key does not
tell apart.** -/
theorem eq_of_stable (hs : s.Pairwise fun t u => key.compare t u ≠ .gt)
    (hs' : s'.Pairwise fun t u => key.compare t u ≠ .gt)
    (h : ∀ t, s.filter (fun u => key.compare t u = .eq) =
      s'.filter (fun u => key.compare t u = .eq)) : s = s' := by
  induction s generalizing s' with
  | nil =>
    cases s' with
    | nil => rfl
    | cons u s' => exact nomatch mem_of_stable (fun t => (h t).symm) (List.mem_cons_self (a := u))
  | cons t s ih =>
    cases s' with
    | nil => exact nomatch mem_of_stable h (List.mem_cons_self (a := t))
    | cons u s' =>
      -- the two first ones are below each other, so the key does not tell them apart
      have htu : key.compare t u ≠ .gt :=
        head_ne_gt hs (mem_of_stable (fun t => (h t).symm) List.mem_cons_self)
      have hut : key.compare u t ≠ .gt := head_ne_gt hs' (mem_of_stable h List.mem_cons_self)
      have hself : key.compare t t = .eq := ReflCmp.compare_self
      have hsame : key.compare t u = .eq := compare_eq_of_ne_gt htu hut
      have hfirst := h t
      simp only [List.filter_cons, decide_eq_true hself, decide_eq_true hsame, if_true] at hfirst
      obtain rfl := (List.cons.inj hfirst).1
      exact congrArg (t :: ·) (ih hs.of_cons hs'.of_cons fun w => filter_rest (h w))

/-- **There is one arrangement only.** -/
theorem Sorts.unique (h : key.Sorts l s) (h' : key.Sorts l s') : s = s' :=
  eq_of_stable h.ordered h'.ordered fun t => (h.stable t).trans (h'.stable t).symm

end SortKey

/-- **What a key does not tell apart keeps its order.** -/
theorem sorted_filter (key : SortKey) {p : Tarball → Bool}
    (h : ∀ t u, p t = true → p u = true → key.compare t u = .eq) (l : List Tarball) :
    (sorted key l).filter p = l.filter p := by
  have hpairwise : (l.filter p).Pairwise fun a b => (key.compare a b).isLE := by
    refine List.pairwise_iff_forall_sublist.2 fun {a b} hab => ?_
    have ha := (List.mem_filter.1 (hab.subset List.mem_cons_self)).2
    have hb := (List.mem_filter.1 (hab.subset (List.mem_cons_of_mem a List.mem_cons_self))).2
    rw [h a b ha hb]
    rfl
  -- what the filter keeps is found in the sorted list as it is, and there is no more of it
  have hsublist : (l.filter p).Sublist (sorted key l) :=
    List.sublist_mergeSort (fun _ _ _ => TransCmp.isLE_trans) key.isLE_total hpairwise
      List.filter_sublist
  have hkept := hsublist.filter p
  rw [List.filter_filter] at hkept
  simp only [Bool.and_self] at hkept
  exact (hkept.eq_of_length ((sorted_perm key l).filter p).length_eq.symm).symm

theorem SortKey.sorts_sorted (key : SortKey) (l : List Tarball) : key.Sorts l (sorted key l) where
  perm := sorted_perm key l
  ordered := (sorted_pairwise key l).imp Ordering.isLE_iff_ne_gt.1
  stable t := by
    refine sorted_filter key (fun u v hu hv => ?_) l
    have htu := of_decide_eq_true hu
    have htv := of_decide_eq_true hv
    exact TransCmp.eq_trans (OrientedCmp.eq_symm htu) htv

/-- **Every key sorts stably.** Its comparison is a total order up to what it
does not tell apart; the sorted list is the one arrangement in which that order
is kept and nothing that it does not tell apart changes places, and sorting a
second time changes nothing. -/
theorem sorted_stable (key : SortKey) :
    (∀ t u, key.compare u t = (key.compare t u).swap) ∧
    (∀ t u v, key.compare t u ≠ .gt → key.compare u v ≠ .gt → key.compare t v ≠ .gt) ∧
    ∀ l, key.Sorts l (sorted key l) ∧ (∀ s, key.Sorts l s → s = sorted key l) ∧
      sorted key (sorted key l) = sorted key l := by
  refine ⟨fun t u => OrientedCmp.eq_swap, fun t u v => SortKey.compare_trans_ne_gt,
    fun l => ⟨?_, ?_, ?_⟩⟩
  · exact key.sorts_sorted l
  · intro s hs
    exact hs.unique (key.sorts_sorted l)
  · exact sorted_sorted key l

/-- Two dates that can be read, in different forms, stand before one that cannot. -/
theorem sorted_stable_dates :
    let early : Tarball :=
      { name := "a.tar.gz", os := "linux", arch := "amd64", flavor := "mysql",
        shortVersion := "8.0", version := "8.0.36", dateAdded := "2024-01-16" }
    let late : Tarball := { early with name := "b.tar.gz", dateAdded := "2024-05-01T12:30:00Z" }
    let unknown : Tarball := { early with name := "c.tar.gz", dateAdded := "1 day later" }
    SortKey.date.compare early late ≠ .gt ∧ SortKey.date.compare late unknown ≠ .gt ∧
      SortKey.date.compare early unknown ≠ .gt := by
  intro early late unknown
  have hdates : SortKey.date.compare early late ≠ .gt := by decide +kernel
  have hunknown : SortKey.date.compare late unknown ≠ .gt := by decide +kernel
  exact ⟨hdates, hunknown, (sorted_stable .date).2.1 early late unknown hdates hunknown⟩

end ReleaseCatalog
