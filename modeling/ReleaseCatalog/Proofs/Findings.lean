import Mathlib.Data.List.Induction
import ReleaseCatalog.Proofs.Uniqueness

/-!
# What the validation of a catalog reports

Validation goes through the tarballs once. The first name that comes up again
ends it and is all that is reported. Otherwise everything is reported that is
wrong, in the order of the tarballs.

* `Requirement`, `Tarball.findings`: what is wrong with a tarball behind those
  in front of it.
* `Catalog.findings`: the whole list, said of positions and without the names
  and builds seen on the way.
* `issuesFrom_step`: one step of the scan; `issuesFrom_eq`,
  `issuesFrom_repeated`: the whole of it, without and with a repeated name.
* `Catalog.validate_report`: which failure is reported, with what in it.
-/

namespace ReleaseCatalog

/-- What a tarball has to say. -/
inductive Requirement where
  | name
  | url
  | shortVersion
  | version
  | os
  | checksum
deriving DecidableEq

namespace Requirement

/-- All requirements, in the order in which they are reported. -/
def all : List Requirement := [name, url, shortVersion, version, os, checksum]

/-- What is reported of a tarball that does not meet the requirement. -/
def text : Requirement → String
  | name => "name is missing"
  | url => "url is missing"
  | shortVersion => "short version is missing"
  | version => "version is missing"
  | os => "operating system is missing"
  | checksum => "checksum is missing"

/-- The tarball does not meet the requirement. -/
def UnmetBy (t : Tarball) : Requirement → Prop
  | name => t.name = ""
  | url => t.url = ""
  | shortVersion => t.shortVersion = ""
  | version => t.version = ""
  | os => t.os = ""
  | checksum => t.checksum = "" ∧ t.flavor ≠ "tidb"

instance (t : Tarball) : DecidablePred (UnmetBy t)
  | name => inferInstanceAs (Decidable (t.name = ""))
  | url => inferInstanceAs (Decidable (t.url = ""))
  | shortVersion => inferInstanceAs (Decidable (t.shortVersion = ""))
  | version => inferInstanceAs (Decidable (t.version = ""))
  | os => inferInstanceAs (Decidable (t.os = ""))
  | checksum => inferInstanceAs (Decidable (t.checksum = "" ∧ t.flavor ≠ "tidb"))

end Requirement

variable {l earlier later : List Tarball} {t : Tarball}

namespace Tarball

/-- What is wrong with a tarball behind other ones: the requirements that it
does not meet, under its name or a stand-in for that, and its build if one of
the others has the same. -/
def findings (earlier : List Tarball) (t : Tarball) : List Issue :=
  ((Requirement.all.filter (·.UnmetBy t)).map fun r =>
    ⟨if t.name = "" then "No Name" else t.name, r.text⟩) ++
    if t.build ∈ earlier.map build then [t.repeatedBuildIssue] else []

/-- The fields that are looked at are those of the requirements. -/
theorem issues_eq (t : Tarball) :
    t.issues =
      (Requirement.all.filter (·.UnmetBy t)).map fun r =>
        ⟨if t.name = "" then "No Name" else t.name, r.text⟩ := by
  have hlacks : t.lacksChecksum = decide (t.checksum = "" ∧ t.flavor ≠ "tidb") := by
    rw [lacksChecksum, Bool.decide_and]
    rfl
  have hpairs : t.issues = (Requirement.all.map fun r => (decide (r.UnmetBy t), r.text)).filterMap
      fun e => if e.1 then some ⟨t.issueName, e.2⟩ else none := by
    unfold issues
    rw [hlacks]
    rfl
  rw [hpairs, List.filterMap_map, ← List.filterMap_eq_map, ← List.filterMap_eq_filter,
    List.filterMap_filterMap]
  refine List.filterMap_congr fun r _ => ?_
  by_cases hr : r.UnmetBy t
  · simp [hr, issueName]
  · simp [hr, Option.guard]

theorem findings_eq (earlier : List Tarball) (t : Tarball) :
    t.findings earlier =
      t.issues ++ if t.build ∈ earlier.map build then [t.repeatedBuildIssue] else [] := by
  rw [issues_eq]
  rfl

end Tarball

/-- **One step of the scan**, behind some tarballs: a name that is among theirs
ends it, and otherwise what is wrong with the next tarball stands in front of
what is found later. -/
theorem issuesFrom_step (earlier l : List Tarball) (t : Tarball) :
    issuesFrom (earlier.map (·.name)).reverse (earlier.map Tarball.build).reverse (t :: l) =
      if t.name ∈ earlier.map (·.name) then .error (.repeatedName t.name)
      else (issuesFrom ((earlier ++ [t]).map (·.name)).reverse
        ((earlier ++ [t]).map Tarball.build).reverse l).map
        (t.findings earlier ++ ·) := by
  rw [issuesFrom, Tarball.findings_eq]
  simp only [List.mem_reverse, List.map_append, List.map_singleton, List.reverse_append,
    List.reverse_singleton, List.singleton_append]
  split
  · rfl
  · cases issuesFrom (t.name :: _) (t.build :: _) l <;> rfl

/-- Where no name is repeated, the next one is not among those in front. -/
theorem name_new_of_nodup (h : ((earlier ++ t :: l).map (·.name)).Nodup) :
    t.name ∉ earlier.map (·.name) := by
  rw [List.map_append, List.map_cons, List.nodup_append] at h
  exact fun hm => h.2.2 _ hm _ List.mem_cons_self rfl

/-- **If no name is repeated, the scan finds all that is wrong with each
tarball**, in order. -/
theorem issuesFrom_eq (earlier : List Tarball) (h : ((earlier ++ l).map (·.name)).Nodup) :
    issuesFrom (earlier.map (·.name)).reverse (earlier.map Tarball.build).reverse l =
      .ok ((l.zipIdx earlier.length).flatMap fun (t, k) => t.findings ((earlier ++ l).take k)) := by
  induction l generalizing earlier with
  | nil => rfl
  | cons t l ih =>
    have hrest := ih (earlier ++ [t]) (by rwa [List.append_assoc])
    rw [List.append_assoc, List.singleton_append, List.length_append,
      List.length_singleton] at hrest
    rw [issuesFrom_step, if_neg (name_new_of_nodup h), hrest, List.zipIdx_cons, List.flatMap_cons]
    show _ = Except.ok (t.findings ((earlier ++ t :: l).take earlier.length) ++ _)
    rw [List.take_left]
    rfl

/-- **The scan fails for a name that comes up again**, whatever was found in
front of it. -/
theorem issuesFrom_repeated (earlier : List Tarball) (h : ((earlier ++ l).map (·.name)).Nodup)
    (ht : t.name ∈ (earlier ++ l).map (·.name)) :
    issuesFrom (earlier.map (·.name)).reverse (earlier.map Tarball.build).reverse
      (l ++ t :: later) =
      .error (.repeatedName t.name) := by
  induction l generalizing earlier with
  | nil =>
    rw [List.append_nil] at ht
    rw [List.nil_append, issuesFrom_step, if_pos ht]
  | cons u l ih =>
    rw [List.cons_append, issuesFrom_step, if_neg (name_new_of_nodup h),
      ih (earlier ++ [u]) (by rwa [List.append_assoc]) (by rwa [List.append_assoc])]
    rfl

/-- A list that repeats a name has a first place at which it does. -/
theorem exists_first_repetition :
    ¬ (l.map (·.name)).Nodup ↔
      ∃ earlier t later, l = earlier ++ t :: later ∧ (earlier.map (·.name)).Nodup ∧
        t.name ∈ earlier.map (·.name) := by
  constructor
  · intro h
    induction l using List.reverseRecOn with
    | nil => exact absurd List.nodup_nil h
    | append_singleton l t ih =>
      by_cases hl : (l.map (·.name)).Nodup
      · refine ⟨l, t, [], rfl, hl, ?_⟩
        by_contra hnew
        refine h ?_
        rw [List.map_append, List.map_singleton, List.nodup_append]
        refine ⟨hl, List.nodup_singleton _, ?_⟩
        rintro name hname _ hlast rfl
        exact hnew (List.mem_singleton.1 hlast ▸ hname)
      · obtain ⟨earlier, u, later, rfl, hearlier, hu⟩ := ih hl
        exact ⟨earlier, u, later ++ [t], by simp, hearlier, hu⟩
  · rintro ⟨earlier, t, later, rfl, -, ht⟩ hnodup
    exact name_new_of_nodup hnodup ht

namespace Catalog

variable {c : Catalog}

/-- All that is wrong with a catalog that repeats no name: that it does not say
the version of the tool, and what is wrong with each tarball behind those in
front of it. -/
def findings (c : Catalog) : List Issue :=
  (if c.schemaVersion = "" then [versionIssue] else []) ++
    c.tarballs.zipIdx.flatMap fun (t, k) => t.findings (c.tarballs.take k)

theorem validate_of_nodup (h : (c.tarballs.map (·.name)).Nodup) :
    c.validate = if c.findings = [] then .ok () else .error (.invalidEntries c.findings) := by
  have hissues : c.issues = .ok c.findings := by
    have hentries := issuesFrom_eq [] h
    unfold issues
    rw [show issuesFrom [] [] c.tarballs = _ from hentries]
    rfl
  unfold validate
  rw [hissues]
  show (if c.findings = [] then _ else _) = _
  rfl

theorem validate_repeated (h : c.tarballs = earlier ++ t :: later)
    (hearlier : (earlier.map (·.name)).Nodup) (ht : t.name ∈ earlier.map (·.name)) :
    c.validate = .error (.repeatedName t.name) := by
  have hscan : issuesFrom [] [] c.tarballs = .error (.repeatedName t.name) := by
    rw [h]
    exact issuesFrom_repeated [] hearlier ht
  unfold validate issues
  rw [hscan]
  rfl

/-- **A catalog that repeats a name is reported for the first tarball whose name
came before, and for nothing else. Any other one is reported for all that is
wrong with it, in order.** -/
theorem validate_report (c : Catalog) :
    (∀ n, c.validate = .error (.repeatedName n) ↔
      ∃ earlier t later, c.tarballs = earlier ++ t :: later ∧ (earlier.map (·.name)).Nodup ∧
        t.name ∈ earlier.map (·.name) ∧ t.name = n) ∧
    ((∃ n, c.validate = .error (.repeatedName n)) ↔ ¬ (c.tarballs.map (·.name)).Nodup) ∧
    ((c.tarballs.map (·.name)).Nodup →
      c.validate = if c.findings = [] then .ok () else .error (.invalidEntries c.findings)) := by
  have hrepeated : ∀ n, c.validate = .error (.repeatedName n) →
      ¬ (c.tarballs.map (·.name)).Nodup := by
    intro n hn hnodup
    rw [validate_of_nodup hnodup] at hn
    split at hn <;> cases hn
  refine ⟨fun n => ⟨fun hn => ?_, ?_⟩, ⟨fun ⟨n, hn⟩ => hrepeated n hn, fun h => ?_⟩,
    validate_of_nodup⟩
  · obtain ⟨earlier, t, later, hc, hearlier, ht⟩ := exists_first_repetition.1 (hrepeated n hn)
    have hfirst := validate_repeated hc hearlier ht
    rw [hn] at hfirst
    injection hfirst with hname
    injection hname with hname
    exact ⟨earlier, t, later, hc, hearlier, ht, hname.symm⟩
  · rintro ⟨earlier, t, later, hc, hearlier, ht, rfl⟩
    exact validate_repeated hc hearlier ht
  · obtain ⟨earlier, t, later, hc, hearlier, ht⟩ := exists_first_repetition.1 h
    exact ⟨t.name, validate_repeated hc hearlier ht⟩

/-- Nothing says the version of the tool, and three tarballs are of one build:
the second has neither name nor address, and neither the first nor the third a
checksum. -/
theorem validate_report_one_build :
    let ours : Tarball :=
      { name := "a.tar.gz", os := "Linux", arch := "amd64", url := "u", flavor := "mysql",
        shortVersion := "8.0", version := "8.0.1" }
    let unnamed : Tarball := { ours with name := "", url := "", checksum := "MD5:1" }
    let theirs : Tarball := { ours with name := "c.tar.gz" }
    let c : Catalog := ⟨"", "", [ours, unnamed, theirs]⟩
    let repeated : String :=
      "OS Linux-amd64, flavor mysql, version 8.0.1, minimal false listed more than once"
    c.validate = .error (.invalidEntries [
      ⟨"collection version", "collection version not set"⟩,
      ⟨"a.tar.gz", "checksum is missing"⟩,
      ⟨"No Name", "name is missing"⟩, ⟨"No Name", "url is missing"⟩, ⟨"", repeated⟩,
      ⟨"c.tar.gz", "checksum is missing"⟩, ⟨"c.tar.gz", repeated⟩]) := by
  intro ours unnamed theirs c repeated
  rw [(validate_report c).2.2 (by decide +kernel)]
  decide +kernel

end Catalog

end ReleaseCatalog
