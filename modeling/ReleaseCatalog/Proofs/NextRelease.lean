import ReleaseCatalog.Proofs.Guessing
import ReleaseCatalog.Proofs.VersionText

/-!
# The version of a guess

A guess is one above the newest patch release of its family, and that is above
every patch release of the family, since the search for the newest one leaves
none that is newer.

* `Policy.nextRelease_ok`: everything that a guess is made of.
* `resolveGuess_ok_iff`: when a guess is made, and from which members of the family.
* `Version.precedes_successor`: what a version does not precede precedes its
  successor.
* `resolveGuess_follows`: the guess follows a member of the family, all members
  that have a patch number precede it, and no member has its version.
-/

namespace ReleaseCatalog

variable {tarballs : List Tarball} {r : Request} {p : Policy} {g t : Tarball} {v newest : Version}
  {major minor patch next : UInt64}

/-- Below the greatest patch number there is a next one. -/
theorem toNat_next (h : patch.toNat + 1 < UInt64.size) : (patch + 1).toNat = patch.toNat + 1 := by
  rw [UInt64.toNat_add, UInt64.toNat_one]
  exact Nat.mod_eq_of_lt h

namespace Version

theorem triple?_eq_some_iff :
    v.triple? = some (major, minor, patch) ↔ [major, minor, patch] <+: v.segments := by
  unfold triple?
  match hs : v.segments with
  | [] | [_] | [_, _] => simp
  | a :: b :: c :: rest => simp [eq_comm]

theorem triple?_isSome_iff : v.triple?.isSome ↔ 3 ≤ v.segments.length := by
  unfold triple?
  match hs : v.segments with
  | [] | [_] | [_, _] => simp
  | a :: b :: c :: rest => simp

/-- **A version with three numbers that is not newer is older than the next
patch release.** It may have more numbers, which no longer count. -/
theorem precedes_successor (hn : newest.triple? = some (major, minor, patch))
    (hnext : next.toNat = patch.toNat + 1) (hv : v.triple?.isSome) (h : newest.precedes v = false) :
    v.precedes ⟨[major, minor, next]⟩ = true := by
  obtain ⟨more, hmore⟩ := triple?_eq_some_iff.1 hn
  obtain ⟨⟨a, b, c⟩, habc⟩ := Option.isSome_iff_exists.1 hv
  obtain ⟨rest, hrest⟩ := triple?_eq_some_iff.1 habc
  have hnot := Bool.eq_false_iff.1 h
  unfold precedes at hnot ⊢
  rw [← hmore, ← hrest] at hnot
  rw [← hrest]
  simp only [List.cons_append, List.nil_append, segmentsPrecede_cons, segmentsPrecede_nil_right,
    Bool.false_eq_true, and_false, or_false, UInt64.lt_iff_toNat_lt, ← UInt64.toNat_inj, ne_eq,
    not_or, not_and] at hnot ⊢
  omega

end Version

namespace Policy

/-- The next patch release read back from its text. -/
theorem ofText_successorText (major minor patch : UInt64) :
    Version.ofText (successorText major minor patch) = ⟨[major, minor, patch + 1]⟩ :=
  Version.ofText_text (by simp)

/-- **What a guess is made of**: the numbers of the newest version, and the rule
of the operating system with its template filled. -/
theorem nextRelease_ok {short flavor : String} {os : OperatingSystem}
    (h : (p.nextRelease v short flavor os).result = .ok g) :
    ∃ major minor patch rule name, v.triple? = some (major, minor, patch) ∧
      p.ruleFor os = .ok rule ∧
      Template.fill os.name rule.nameTemplate
        (rule.templateData.override (computedFields rule (successorText major minor patch) short)) =
          .ok name ∧
      g = {
        name, flavor
        version := successorText major minor patch
        url := p.urlFor short name
        shortVersion := short
        os := os.name
        minimal := rule.forceMinimal
        notes := guessedNote } := by
  cases hv : v.triple? with
  | none =>
    have hno : (p.nextRelease v short flavor os).outcome = .error .notFound :=
      nextRelease_notFound hv
    rw [Report.outcome_ok_iff.2 h] at hno
    exact nomatch hno
  | some numbers =>
    obtain ⟨major, minor, patch⟩ := numbers
    rw [nextRelease_result hv] at h
    obtain ⟨rule, hrule, h⟩ := bind_ok_iff.1 h
    obtain ⟨name, hname, h⟩ := bind_ok_iff.1 h
    exact ⟨major, minor, patch, rule, name, rfl, hrule, hname, (pure_eq_ok.1 h).symm⟩

end Policy

/-- **When a guess is made**: for a short version that is allowed, from the first
member of the family and the one that the search for the newest comes to. -/
theorem resolveGuess_ok_iff :
    (resolveGuess tarballs r p).result = .ok g ↔
      r.shortVersion ∈ p.allowedVersions ∧ ∃ first rest, r.family.select tarballs = first :: rest ∧
        (p.nextRelease (rest.foldl newer first).parsedVersion first.shortVersion r.flavor
          r.os).result = .ok g := by
  rw [← Report.outcome_ok_iff, resolveGuess_outcome]
  by_cases ha : r.shortVersion ∈ p.allowedVersions
  · rw [if_pos ha]
    cases r.family.select tarballs with
    | nil => simp
    | cons first rest =>
      constructor
      · intro h
        exact ⟨ha, first, rest, rfl, Report.outcome_ok_iff.1 h⟩
      · rintro ⟨-, first', rest', hlist, h⟩
        obtain ⟨rfl, rfl⟩ := List.cons.inj hlist
        exact Report.outcome_ok_iff.2 h
  · rw [if_neg ha]
    exact iff_of_false (fun h => nomatch h) fun h => ha h.1

/-- A guess is made from the first member of the family and one that precedes none. -/
theorem resolveGuess_ok (h : (resolveGuess tarballs r p).result = .ok g) :
    r.shortVersion ∈ p.allowedVersions ∧ ∃ first ∈ r.family.select tarballs, ∃ t,
      Unsurpassed t (r.family.select tarballs) ∧
        (p.nextRelease t.parsedVersion first.shortVersion r.flavor r.os).result = .ok g := by
  obtain ⟨ha, first, rest, hlist, hnext⟩ := resolveGuess_ok_iff.1 h
  rw [hlist]
  exact ⟨ha, first, List.mem_cons_self, _, foldl_newer_unsurpassed first rest, hnext⟩

/-- No patch number of the tarballs is the greatest one, so each has a successor. -/
def Succeedable (tarballs : List Tarball) : Prop :=
  ∀ t ∈ tarballs, ∀ numbers ∈ t.parsedVersion.triple?, numbers.2.2.toNat + 1 < UInt64.size

instance (tarballs : List Tarball) : Decidable (Succeedable tarballs) :=
  decidable_of_iff (tarballs.all fun t =>
    t.parsedVersion.triple?.all (·.2.2.toNat + 1 < UInt64.size)) (by
    simp only [Succeedable, List.all_eq_true, Option.all_eq_true, decide_eq_true_iff,
      Option.mem_def])

/-- The version of a guess has three numbers, is the successor of a member that
precedes none, and is read back from its text. -/
theorem resolveGuess_successor (h : (resolveGuess tarballs r p).result = .ok g)
    (hp : Succeedable (r.family.select tarballs)) :
    ∃ t, Unsurpassed t (r.family.select tarballs) ∧ ∃ major minor patch next,
      t.parsedVersion.triple? = some (major, minor, patch) ∧ next.toNat = patch.toNat + 1 ∧
        g.parsedVersion = ⟨[major, minor, next]⟩ := by
  obtain ⟨-, first, -, t, ht, hg⟩ := resolveGuess_ok h
  obtain ⟨major, minor, patch, rule, name, hv, -, -, rfl⟩ := Policy.nextRelease_ok hg
  have hnext := toNat_next (hp t ht.1 _ hv)
  exact ⟨t, ht, major, minor, patch, patch + 1, hv, hnext, Policy.ofText_successorText ..⟩

/-- Every member of the family that has a patch number is older than the guess. -/
theorem precedes_guess (h : (resolveGuess tarballs r p).result = .ok g)
    (hp : Succeedable (r.family.select tarballs))
    (ht : t ∈ r.family.select tarballs) (hlen : 3 ≤ t.parsedVersion.segments.length) :
    t.parsedVersion.precedes g.parsedVersion = true := by
  obtain ⟨newest, hnewest, major, minor, patch, next, hv, hnext, hg⟩ := resolveGuess_successor h hp
  rw [hg]
  exact Version.precedes_successor hv hnext (Version.triple?_isSome_iff.2 hlen) (hnewest.2 t ht)

/-- No member of the family has the version of the guess. -/
theorem parsedVersion_ne_guess (h : (resolveGuess tarballs r p).result = .ok g)
    (hp : Succeedable (r.family.select tarballs))
    (ht : t ∈ r.family.select tarballs) : t.parsedVersion ≠ g.parsedVersion := by
  intro heq
  by_cases hlen : 3 ≤ t.parsedVersion.segments.length
  · have hself := precedes_guess h hp ht hlen
    rw [heq, Version.precedes_irrefl] at hself
    exact nomatch hself
  · -- the guess has three numbers, and this member has fewer
    obtain ⟨-, -, major, minor, patch, next, -, -, hg⟩ := resolveGuess_successor h hp
    have hthree : g.parsedVersion.segments.length = 3 := by rw [hg]; rfl
    rw [heq] at hlen
    omega

/-- **A guess is the patch release after one of its family, every member with a
patch number is older than it, and no member has its version.** -/
theorem resolveGuess_follows (tarballs : List Tarball) (r : Request) (p : Policy)
    (hp : Succeedable (r.family.select tarballs))
    (h : (resolveGuess tarballs r p).result = .ok g) :
    (∃ t ∈ r.family.select tarballs, ∃ major minor patch next : UInt64,
      [major, minor, patch] <+: t.parsedVersion.segments ∧ next.toNat = patch.toNat + 1 ∧
        g.parsedVersion.segments = [major, minor, next]) ∧
    (∀ t ∈ r.family.select tarballs, 3 ≤ t.parsedVersion.segments.length →
      t.parsedVersion.precedes g.parsedVersion = true) ∧
    ∀ t ∈ r.family.select tarballs, t.parsedVersion ≠ g.parsedVersion := by
  obtain ⟨newest, hnewest, major, minor, patch, next, hv, hnext, hg⟩ := resolveGuess_successor h hp
  refine ⟨⟨newest, hnewest.1, major, minor, patch, next, Version.triple?_eq_some_iff.1 hv,
    hnext, ?_⟩, ?_, ?_⟩
  · rw [hg]
  · intro t ht hlen
    exact precedes_guess h hp ht hlen
  · intro t ht
    exact parsedVersion_ne_guess h hp ht

/-- A family of versions with three, four and two numbers, one of them with a
part that is none, in no particular order. -/
theorem resolveGuess_follows_mixed :
    let patchOf (version : String) : Tarball :=
      { name := version, os := "Linux", flavor := "MySQL", shortVersion := "8.0", version }
    let tarballs := [patchOf "8.0.9", patchOf "8.0.36.2", patchOf "8.0", patchOf "8.0.x"]
    let r : Request := ⟨"8.0.36", "mysql", .linux, .amd64, true, false⟩
    ∃ g, (resolveGuess tarballs r .default).result = .ok g ∧ g.version = "8.0.37" ∧
      (patchOf "8.0.36.2").parsedVersion.precedes g.parsedVersion = true := by
  intro patchOf tarballs r
  have hp : Succeedable (r.family.select tarballs) := by decide +kernel
  have hok : (resolveGuess tarballs r .default).result.map (·.version) = .ok "8.0.37" := by
    decide +kernel
  cases hg : (resolveGuess tarballs r .default).result with
  | error e =>
    rw [hg] at hok
    exact nomatch hok
  | ok g =>
    rw [hg] at hok
    have hfollows := (resolveGuess_follows tarballs r .default hp hg).2.1
    exact ⟨g, rfl, Except.ok.inj hok,
      hfollows (patchOf "8.0.36.2") (by decide +kernel) (by decide +kernel)⟩

end ReleaseCatalog
