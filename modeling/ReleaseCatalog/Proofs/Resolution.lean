import ReleaseCatalog.Proofs.Newest
import ReleaseCatalog.Proofs.Outcome
import ReleaseCatalog.Proofs.Uniqueness

/-!
# What a request for the newest tarball comes to

A request that asks for the newest of its matches gets one that precedes none of
them, or learns that it has rivals of the same version.

* `resolve_outcomes`: what the request can come to, over all orders of the list.
* `resolve_newest_iff`: it always gets a greatest match, and the same in every
  order of the list, exactly if no match of a version that a greatest one
  continues could stand for it.
* `resolve_newest_misses`: a list of two in which the order decides.
-/

namespace ReleaseCatalog

variable {l l' tarballs : List Tarball} {r : Request} {g t : Tarball} {o : Except ErrorKind Tarball}

/-- What the resolver comes to once it has found a tarball among the candidates. -/
def pick (t : Tarball) (candidates : List Tarball) : Except ErrorKind Tarball :=
  if rivals t candidates = [] then .ok t else .error .ambiguousMatch

theorem pick_ok_iff {u : Tarball} : pick t l = .ok u ↔ rivals t l = [] ∧ t = u := by
  unfold pick
  split <;> simp_all

theorem pick_of_rivals (h : rivals t l ≠ []) : pick t l = .error .ambiguousMatch := if_neg h

theorem pick_perm (hp : l.Perm l') : pick t l = pick t l' := by
  have hr : (rivals t l).Perm (rivals t l') := hp.filter _
  have hnil : rivals t l = [] ↔ rivals t l' = [] :=
    ⟨fun h => List.nil_perm.1 (h ▸ hr), fun h => List.perm_nil.1 (h ▸ hr)⟩
  simp only [pick, hnil]

theorem rivals_ne_nil {u : Tarball} (hu : u ∈ l) (hn : u.name ≠ t.name)
    (hv : u.parsedVersion = t.parsedVersion) :
    rivals t l ≠ [] :=
  List.ne_nil_of_mem (List.mem_filter.2 ⟨hu, by simp [hn, hv]⟩)

theorem newestOf_outcome (first : Tarball) (rest : List Tarball) :
    (newestOf first rest).mapError Error.kind = pick (rest.foldl newer first) (first :: rest) := by
  simp only [newestOf, pick]
  split
  · rw [if_pos ‹_›]
    rfl
  · rename_i hrivals
    rw [if_neg hrivals]
    rfl

/-- The resolver as the search for the newest one among the candidates. -/
theorem resolve_outcome (hn : r.newest = true) :
    (resolve l r).outcome = match r.select l with
      | [] => .error .notFound
      | first :: rest => pick (rest.foldl newer first) (first :: rest) := by
  show (choose r (r.select l)).mapError Error.kind = _
  match r.select l with
  | [] => rfl
  | [only] =>
    have hnone : rivals only [only] = [] := by simp [rivals]
    exact (if_pos hnone).symm
  | first :: second :: rest =>
    have hchoose : choose r (first :: second :: rest) = newestOf first (second :: rest) := if_pos hn
    rw [hchoose]
    exact newestOf_outcome first (second :: rest)

/-- **Over all orders of the list a request for the newest comes to any match
that precedes none.** -/
theorem resolve_outcomes (hn : r.newest = true) (hne : r.select tarballs ≠ []) :
    (∃ l, l.Perm tarballs ∧ (resolve l r).outcome = o) ↔
      ∃ t, Unsurpassed t (r.select tarballs) ∧ pick t (r.select tarballs) = o := by
  constructor
  · rintro ⟨l, hp, rfl⟩
    have hs := r.select_perm hp
    rw [resolve_outcome hn]
    cases hl : r.select l with
    | nil =>
      rw [hl] at hs
      exact absurd (List.nil_perm.1 hs) hne
    | cons first rest =>
      rw [hl] at hs
      exact ⟨_, (foldl_newer_unsurpassed first rest).perm hs, pick_perm hs.symm⟩
  · rintro ⟨t, ht, rfl⟩
    obtain ⟨l, rest, hp, hl⟩ := r.exists_first ht.1
    have hs := r.select_perm hp
    rw [hl] at hs
    refine ⟨l, hp, ?_⟩
    -- the search stays with what comes first
    rw [resolve_outcome hn, hl]
    show pick (rest.foldl newer t) _ = _
    rw [foldl_newer_of_unsurpassed fun u hu => ht.2 u (hs.mem_iff.1 (List.mem_cons_of_mem _ hu))]
    exact pick_perm hs

/-- Whatever the order, a match that the request gets has the greatest version
or one that the greatest version continues. -/
theorem resolve_prefix (hn : r.newest = true) (h : (resolve tarballs r).result = .ok t)
    (hg : Greatest g (r.select tarballs)) : t.parsedVersion.IsPrefix g.parsedVersion := by
  have ho := Report.outcome_ok_iff.2 h
  obtain ⟨u, hu, hpick⟩ := (resolve_outcomes hn (List.ne_nil_of_mem hg.1)).1 ⟨tarballs, .refl _, ho⟩
  obtain ⟨-, rfl⟩ := pick_ok_iff.1 hpick
  exact (hg.unsurpassed_iff hu.1).1 hu

/-- Two matches that precede none come to the same, if those that are shadowed
have rivals and so do those that shadow them. -/
theorem pick_eq_of_unsurpassed (hd : Distinct l)
    (h : ∀ g t, Greatest g l → Shadowed t g l → rivals t l ≠ [] ∧ rivals g l ≠ [])
    {t u : Tarball} (ht : Unsurpassed t l) (hu : Unsurpassed u l) : pick t l = pick u l := by
  obtain ⟨g, hg⟩ := exists_greatest (List.ne_nil_of_mem ht.1)
  by_cases hshadow : ∃ s, Shadowed s g l
  · -- then everything that precedes nothing has a rival
    obtain ⟨s, hs⟩ := hshadow
    have hrivals : ∀ v, Unsurpassed v l → rivals v l ≠ [] := by
      intro v hv
      by_cases hvg : v.parsedVersion = g.parsedVersion
      · have hs' : Shadowed s v l := ⟨hs.1, hvg ▸ hs.2.1, hvg ▸ hs.2.2⟩
        exact (h v s (hg.of_version hv.1 hvg) hs').2
      · exact (h g v hg ⟨hv.1, (hg.unsurpassed_iff hv.1).1 hv, hvg⟩).1
    rw [pick_of_rivals (hrivals t ht), pick_of_rivals (hrivals u hu)]
  · have hversion : ∀ v, Unsurpassed v l → v.parsedVersion = g.parsedVersion := fun v hv => by
      by_contra hne
      exact hshadow ⟨v, hv.1, (hg.unsurpassed_iff hv.1).1 hv, hne⟩
    have hv : t.parsedVersion = u.parsedVersion := (hversion t ht).trans (hversion u hu).symm
    by_cases he : t = u
    · rw [he]
    · have hname : t.name ≠ u.name := fun hn => he (hd.eq_of_name ht.1 hu.1 hn)
      rw [pick_of_rivals (rivals_ne_nil hu.1 hname.symm hv.symm),
        pick_of_rivals (rivals_ne_nil ht.1 hname hv)]

/-- If a request always gets a greatest match, and the same one in every order,
then a match that is shadowed has a rival and so has the one that shadows it. -/
theorem rivals_of_shadowed (hn : r.newest = true)
    (h : ∀ l, l.Perm tarballs → (resolve l r).outcome = (resolve tarballs r).outcome ∧
      ∀ t, (resolve l r).result = .ok t → Greatest t (r.select tarballs))
    (hg : Greatest g (r.select tarballs)) (hs : Shadowed t g (r.select tarballs)) :
    rivals t (r.select tarballs) ≠ [] ∧ rivals g (r.select tarballs) ≠ [] := by
  have hne : r.select tarballs ≠ [] := List.ne_nil_of_mem hg.1
  have ht : Unsurpassed t (r.select tarballs) := (hg.unsurpassed_iff hs.1).2 hs.2.1
  -- in one order the shadowed match is found, in another the one that shadows it
  obtain ⟨lt, hpt, hot⟩ := (resolve_outcomes hn hne).2 ⟨t, ht, rfl⟩
  obtain ⟨lg, hpg, hog⟩ := (resolve_outcomes hn hne).2 ⟨g, hg.unsurpassed, rfl⟩
  have hrival : rivals t (r.select tarballs) ≠ [] := by
    intro hnil
    have hok := Report.outcome_ok_iff.1 (hot.trans (pick_ok_iff.2 ⟨hnil, rfl⟩))
    exact hs.not_greatest hg ((h lt hpt).2 t hok)
  refine ⟨hrival, fun hnil => ?_⟩
  have heq : pick t (r.select tarballs) = pick g (r.select tarballs) := by
    rw [← hot, ← hog, (h lt hpt).1, (h lg hpg).1]
  rw [pick_of_rivals hrival, pick_ok_iff.2 ⟨hnil, rfl⟩] at heq
  exact nomatch heq

/-- **A request for the newest gets a greatest match, and the same in every
order of the list, exactly if every match that is shadowed has a rival and so
has the one that shadows it.** In any case the version that it gets is the
greatest one or what is left of that when it is cut off. -/
theorem resolve_newest_iff (tarballs : List Tarball) (r : Request)
    (hu : checkUnique tarballs = .ok ()) (hn : r.newest = true) :
    ((∀ l, l.Perm tarballs → (resolve l r).outcome = (resolve tarballs r).outcome ∧
        ∀ t, (resolve l r).result = .ok t → Greatest t (r.select tarballs)) ↔
      ∀ g t, Greatest g (r.select tarballs) → Shadowed t g (r.select tarballs) →
        rivals t (r.select tarballs) ≠ [] ∧ rivals g (r.select tarballs) ≠ []) ∧
    ∀ t g, (resolve tarballs r).result = .ok t → Greatest g (r.select tarballs) →
      t.parsedVersion.IsPrefix g.parsedVersion := by
  refine ⟨?_, fun t g h hg => resolve_prefix hn h hg⟩
  have hd : Distinct (r.select tarballs) := (checkUnique_ok_iff.1 hu).sublist List.filter_sublist
  constructor
  · exact fun h g t hg hs => rivals_of_shadowed hn h hg hs
  · intro h l hp
    by_cases hne : r.select tarballs = []
    · have hnil : r.select l = [] := List.perm_nil.1 (hne ▸ r.select_perm hp)
      have herror : (resolve l r).outcome = .error .notFound := by rw [resolve_outcome hn, hnil]
      refine ⟨?_, fun t ht => ?_⟩
      · rw [herror, resolve_outcome hn, hne]
      · rw [Report.outcome_ok_iff.2 ht] at herror
        exact nomatch herror
    · obtain ⟨t, ht, hot⟩ := (resolve_outcomes hn hne).1 ⟨l, hp, rfl⟩
      obtain ⟨u, hu, hou⟩ := (resolve_outcomes hn hne).1 ⟨tarballs, .refl _, rfl⟩
      refine ⟨?_, fun v hv => ?_⟩
      · rw [← hot, ← hou]
        exact pick_eq_of_unsurpassed hd h ht hu
      · rw [Report.outcome_ok_iff.2 hv] at hot
        obtain ⟨hnil, rfl⟩ := pick_ok_iff.1 hot
        obtain ⟨g, hg⟩ := exists_greatest hne
        refine hg.of_version ht.1 ?_
        by_contra hvg
        exact (h g t hg ⟨ht.1, (hg.unsurpassed_iff ht.1).1 ht, hvg⟩).1 hnil

/-- Three releases with three numbers each: no order hides the greatest one. -/
theorem resolve_newest_iff_patches :
    let first : Tarball :=
      { name := "mysql-8.0.9.tar.gz", os := "linux", arch := "amd64", flavor := "mysql",
        shortVersion := "8.0", version := "8.0.9" }
    let second : Tarball := { first with name := "mysql-8.0.37.tar.gz", version := "8.0.37" }
    let third : Tarball := { first with name := "mysql-8.0.4.tar.gz", version := "8.0.4" }
    let r : Request := ⟨"8.0", "mysql", .linux, .amd64, false, true⟩
    checkUnique [first, second, third] = .ok () ∧ r.newest = true ∧
      ∀ l, l.Perm [first, second, third] → (resolve l r).result = .ok second := by
  intro first second third r
  have hu : checkUnique [first, second, third] = .ok () := by decide +kernel
  have hnone : ∀ g ∈ r.select [first, second, third], ∀ t ∈ r.select [first, second, third],
      ¬ Shadowed t g (r.select [first, second, third]) := by decide +kernel
  have hall := (resolve_newest_iff [first, second, third] r hu rfl).1.2 fun g t hg hs =>
    absurd hs (hnone g hg.1 t hs.1)
  have hsecond : (resolve [first, second, third] r).result = .ok second := by decide +kernel
  refine ⟨hu, rfl, fun l hp => Report.outcome_ok_iff.1 ?_⟩
  rw [(hall l hp).1]
  exact Report.outcome_ok_iff.2 hsecond

/-- Of `8.0` and `8.0.1` a request for the newest gets the one that is listed
first, though the second one is greater. -/
theorem resolve_newest_misses :
    let short : Tarball :=
      { name := "mysql-8.0.tar.gz", checksum := "MD5:1", os := "linux", arch := "amd64", url := "u",
        flavor := "mysql", shortVersion := "8.0", version := "8.0" }
    let long : Tarball := { short with name := "mysql-8.0.1.tar.gz", version := "8.0.1" }
    let r : Request := ⟨"8.0", "mysql", .linux, .amd64, false, true⟩
    checkUnique [short, long] = .ok () ∧ (resolve [short, long] r).result = .ok short ∧
      ¬ Greatest short (r.select [short, long]) ∧ (resolve [long, short] r).result = .ok long := by
  decide +kernel

end ReleaseCatalog
