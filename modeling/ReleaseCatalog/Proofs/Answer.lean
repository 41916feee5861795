import ReleaseCatalog.Proofs.Newest
import ReleaseCatalog.Proofs.Outcome

/-!
# Every answer to a request

What a request comes to depends on how many tarballs match it. One match is the
answer; several are an answer only if the newest one was asked for and no other
match has its version under another name.

* `find?_foldl_newer`: the search stops at the first match of the version that
  it finds.
* `newestOf_cases`: what the search for the newest match comes to, with the
  names that it lists.
* `choose_notFound_iff`: nothing is found exactly if nothing matches.
* `resolve_answer`: the answer to a request, whatever the list.
-/

namespace ReleaseCatalog

variable {first second t : Tarball} {rest l : List Tarball} {r : Request}

theorem rivals_eq_filter (t : Tarball) (l : List Tarball) :
    rivals t l = l.filter fun u => u.name ≠ t.name ∧ u.parsedVersion = t.parsedVersion := by
  unfold rivals
  refine List.filter_congr fun u _ => ?_
  rw [Bool.decide_and]

/-- There are no rivals exactly if all tarballs of the same version go by the
same name. -/
theorem rivals_eq_nil_iff :
    rivals t l = [] ↔ ∀ u ∈ l, u.parsedVersion = t.parsedVersion → u.name = t.name := by
  rw [rivals_eq_filter, List.filter_eq_nil_iff]
  constructor
  · intro h u hu hversion
    refine Decidable.byContradiction fun hname => ?_
    exact h u hu (decide_eq_true ⟨hname, hversion⟩)
  · intro h u hu hrival
    have hboth := of_decide_eq_true hrival
    exact hboth.1 (h u hu hboth.2)

/-- **What the search finds is the first tarball of its version.** -/
theorem find?_foldl_newer (first : Tarball) (rest : List Tarball) :
    (first :: rest).find? (·.parsedVersion = (rest.foldl newer first).parsedVersion) =
      some (rest.foldl newer first) := by
  induction rest generalizing first with
  | nil => exact List.find?_cons_of_pos (decide_eq_true rfl)
  | cons u rest ih =>
    rw [List.foldl_cons]
    by_cases hnewer : first.parsedVersion.precedes u.parsedVersion = true
    · -- the first one is left behind for good, so it is older than what is found
      have hstep : newer first u = u := if_pos hnewer
      rw [hstep]
      have holder : first.parsedVersion.precedes (rest.foldl newer u).parsedVersion = true := by
        rcases foldl_newer_cases u rest with hstays | hlater
        · rw [hstays]
          exact hnewer
        · exact Version.precedes_trans hnewer hlater
      have hne : first.parsedVersion ≠ (rest.foldl newer u).parsedVersion :=
        Version.ne_of_precedes holder
      rw [List.find?_cons_of_neg (by simpa using hne)]
      exact ih u
    · have hstep : newer first u = first := if_neg hnewer
      rw [hstep]
      have hfirst := ih first
      by_cases hversion : first.parsedVersion = (rest.foldl newer first).parsedVersion
      · simp only [List.find?_cons, decide_eq_true hversion] at hfirst ⊢
        exact hfirst
      · have hlater :=
          (foldl_newer_cases first rest).resolve_left fun hstays => hversion (by rw [hstays])
        have hne : u.parsedVersion ≠ (rest.foldl newer first).parsedVersion := by
          intro hsame
          rw [← hsame] at hlater
          exact hnewer hlater
        rw [List.find?_cons_of_neg (by simpa using hversion)] at hfirst ⊢
        rw [List.find?_cons_of_neg (by simpa using hne)]
        exact hfirst

/-- **The search comes to a tarball that precedes none, or names it and its
rivals.** -/
theorem newestOf_cases (first : Tarball) (rest : List Tarball) :
    ∃ t, Unsurpassed t (first :: rest) ∧
      (first :: rest).find? (·.parsedVersion = t.parsedVersion) = some t ∧
      ((rivals t (first :: rest) = [] ∧ newestOf first rest = .ok t) ∨
        (rivals t (first :: rest) ≠ [] ∧
          newestOf first rest =
            .error (.sameVersion (t.name :: (rivals t (first :: rest)).map (·.name))))) := by
  refine ⟨rest.foldl newer first, foldl_newer_unsurpassed first rest,
    find?_foldl_newer first rest, ?_⟩
  unfold newestOf
  dsimp only
  cases hrivals : rivals (rest.foldl newer first) (first :: rest) with
  | nil => exact .inl ⟨rfl, rfl⟩
  | cons u us => exact .inr ⟨List.cons_ne_nil u us, rfl⟩

theorem newestOf_ne_notFound : (newestOf first rest).mapError Error.kind ≠ .error .notFound := by
  obtain ⟨t, -, -, ⟨-, h⟩ | ⟨-, h⟩⟩ := newestOf_cases first rest
  · rw [h]
    exact fun hkind => nomatch hkind
  · rw [h]
    exact fun hkind => nomatch hkind

/-- Two matches and more are told apart only for somebody who asks for the newest. -/
theorem choose_several (r : Request) (first second : Tarball) (rest : List Tarball) :
    choose r (first :: second :: rest) =
      if r.newest then newestOf first (second :: rest)
      else .error (.severalMatch ((first :: second :: rest).map (·.name))) := rfl

/-- **Nothing is found exactly if nothing matches.** -/
theorem choose_notFound_iff : (choose r l).mapError Error.kind = .error .notFound ↔ l = [] := by
  match l with
  | [] => exact iff_of_true rfl rfl
  | [only] => exact iff_of_false (fun h => nomatch h) (List.cons_ne_nil _ _)
  | first :: second :: rest =>
    refine iff_of_false (fun h => ?_) (List.cons_ne_nil _ _)
    rw [choose_several] at h
    split at h
    · exact newestOf_ne_notFound h
    · exact nomatch h

/-- **The answer to a request.** Nothing matches exactly if nothing is found; a
single match is the answer; of several matches all are named unless the newest
was asked for. That one precedes no match and is the first of its version, and
it is the answer if all matches of its version go by its name. Otherwise it is
named, and those that do not behind it in the order of the list. -/
theorem resolve_answer (tarballs : List Tarball) (r : Request) :
    let matching := tarballs.filter r.accepts
    let answer := (resolve tarballs r).result
    ((resolve tarballs r).outcome = .error .notFound ↔ matching = []) ∧
    (matching = [] → answer = .error (.noMatch r)) ∧
    (∀ t, matching = [t] → answer = .ok t) ∧
    (2 ≤ matching.length → r.newest = false →
      answer = .error (.severalMatch (matching.map (·.name)))) ∧
    (2 ≤ matching.length → r.newest = true → ∃ t ∈ matching,
      (∀ u ∈ matching, t.parsedVersion.precedes u.parsedVersion = false) ∧
      matching.find? (·.parsedVersion = t.parsedVersion) = some t ∧
      let tied := matching.filter fun u => u.name ≠ t.name ∧ u.parsedVersion = t.parsedVersion
      (((∀ u ∈ matching, u.parsedVersion = t.parsedVersion → u.name = t.name) ∧ answer = .ok t) ∨
        (tied ≠ [] ∧ answer = .error (.sameVersion (t.name :: tied.map (·.name)))))) := by
  intro matching answer
  have hanswer : answer = choose r matching := rfl
  refine ⟨choose_notFound_iff, ?_, ?_, ?_, ?_⟩
  · intro hnone
    rw [hanswer, hnone]
    rfl
  · intro t hone
    rw [hanswer, hone]
    rfl
  · intro hseveral hnewest
    match matching, hseveral with
    | first :: second :: rest, _ =>
      rw [hanswer, choose_several, if_neg (Bool.eq_false_iff.1 hnewest)]
  · intro hseveral hnewest
    match matching, hseveral with
    | first :: second :: rest, _ =>
      have hchoose : answer = newestOf first (second :: rest) := by
        rw [hanswer, choose_several, if_pos hnewest]
      obtain ⟨t, ht, hfirst, hcases⟩ := newestOf_cases first (second :: rest)
      refine ⟨t, ht.1, ht.2, hfirst, ?_⟩
      rw [hchoose, ← rivals_eq_filter, ← rivals_eq_nil_iff]
      exact hcases

/-- An older build stands in front of two of the newest version, which is
written in two ways. -/
theorem resolve_answer_tied :
    let older : Tarball :=
      { name := "a.tar.gz", os := "linux", arch := "amd64", flavor := "mysql",
        shortVersion := "8.0", version := "8.0.36" }
    let newest : Tarball := { older with name := "b.tar.gz", version := "8.0.37" }
    let again : Tarball := { older with name := "c.tar.gz", version := "8.0.037" }
    let r : Request := ⟨"8.0", "mysql", .linux, .amd64, false, true⟩
    2 ≤ ([older, newest, again].filter r.accepts).length ∧ r.newest = true ∧
      (resolve [older, newest, again] r).result =
        .error (.sameVersion ["b.tar.gz", "c.tar.gz"]) := by
  intro older newest again r
  have hmatching : [older, newest, again].filter r.accepts = [older, newest, again] := by
    decide +kernel
  have hseveral : 2 ≤ ([older, newest, again].filter r.accepts).length := by
    rw [hmatching]
    decide
  obtain ⟨t, ht, hmax, hfirst, hanswer⟩ :=
    (resolve_answer [older, newest, again] r).2.2.2.2 hseveral rfl
  rw [hmatching] at ht hmax hfirst hanswer
  refine ⟨hseveral, rfl, ?_⟩
  simp only [List.mem_cons, List.not_mem_nil, or_false] at ht
  rcases ht with ht | ht | ht
  · have holder := hmax newest (by simp)
    rw [ht] at holder
    exact absurd holder (by decide +kernel)
  · have htied : [older, newest, again].filter
        (fun u => u.name ≠ t.name ∧ u.parsedVersion = t.parsedVersion) = [again] := by
      rw [ht]
      decide +kernel
    rcases hanswer with ⟨halone, -⟩ | ⟨-, hnames⟩
    · have hname := halone again (by simp)
      rw [ht] at hname
      exact absurd (hname (by decide +kernel)) (by decide +kernel)
    · rw [hnames, htied, ht]
      rfl
  · rw [ht] at hfirst
    exact absurd hfirst (by decide +kernel)

end ReleaseCatalog
