import Mathlib.Data.List.Basic
import ReleaseCatalog.Integrity
import ReleaseCatalog.Proofs.Dict
import ReleaseCatalog.Proofs.Newest
import ReleaseCatalog.Proofs.Outcome
import ReleaseCatalog.Proofs.Template

/-!
# What a guess depends on

A guess is made from the newest member of a family and from the short version of
its first member, and both may change with the order of the list.

* `Policy.nextRelease_cases`: apart from the numbers of the newest version, the
  guess succeeds or fails alike for all short versions, and carries the one that
  it was made for.
* `resolveGuess_perm_iff`: the order of the list does not matter exactly if no
  member is taken for the newest that lacks the numbers which a greatest member
  has, and, where a guess is made, all members have the same short version.
* `resolveGuess_misses`: a list of two in which the order decides.
-/

namespace ReleaseCatalog

variable {l l' tarballs : List Tarball} {r : Request} {p : Policy} {g t u : Tarball} {v w : Version}
  {flavor short : String} {os : OperatingSystem}

/-- A version that another one continues has the same first three numbers, if it
has as many. -/
theorem Version.IsPrefix.triple?_eq (h : v.IsPrefix w) (hv : v.triple?.isSome) :
    v.triple? = w.triple? := by
  obtain ⟨more, hw⟩ := h
  unfold triple? at *
  rw [← hw]
  match hs : v.segments with
  | [] | [_] | [_, _] => simp [hs] at hv
  | major :: minor :: patch :: rest => rfl

namespace Policy

theorem contains_computedFields (rule : PlatformRule) (version short k : String) :
    (computedFields rule version short).contains k = decide (k ∈ ["Version", "Ext", "Minimal"]) :=
  Dict.contains_ofList _

/-- Only the first three numbers of the newest version matter. -/
theorem nextRelease_congr (h : v.triple? = w.triple?) :
    p.nextRelease v short flavor os = p.nextRelease w short flavor os := by
  unfold nextRelease
  rw [h]

theorem nextRelease_notFound (h : v.triple? = none) :
    (p.nextRelease v short flavor os).outcome = .error .notFound := by
  unfold nextRelease
  rw [h]
  rfl

/-- The result of a guess without the events on the way. -/
theorem nextRelease_result {major minor patch : UInt64}
    (h : v.triple? = some (major, minor, patch)) :
    (p.nextRelease v short flavor os).result = (do
      let rule ← p.ruleFor os
      let version := successorText major minor patch
      let name ← Template.fill os.name rule.nameTemplate
        (rule.templateData.override (computedFields rule version short))
      return {
        name, flavor, version
        url := p.urlFor short name
        shortVersion := short
        os := os.name
        minimal := rule.forceMinimal
        notes := guessedNote }) := by
  unfold nextRelease
  rw [h]
  simp only [Report.result_bind, Report.result_ofExcept]
  refine bind_congr fun rule => ?_
  split <;> simp only [Report.result_bind, Report.result_ofExcept, Report.result_log,
    Report.result_pure] <;> rfl

/-- **For a version with three numbers the guess fails for all short versions
alike, in another way than for a version with fewer, or it succeeds for each and
carries it.** -/
theorem nextRelease_cases (p : Policy) (flavor : String) (os : OperatingSystem)
    (h : v.triple?.isSome) :
    (∃ k, k ≠ .notFound ∧ ∀ short, (p.nextRelease v short flavor os).outcome = .error k) ∨
      ∀ short, ∃ g, (p.nextRelease v short flavor os).result = .ok g ∧ g.shortVersion = short := by
  obtain ⟨⟨major, minor, patch⟩, hv⟩ := Option.isSome_iff_exists.1 h
  cases hrule : p.ruleFor os with
  | error e =>
    have hkind : e.kind = .unsupportedGuessPlatform := by
      unfold ruleFor at hrule
      split at hrule
      · exact nomatch hrule
      · cases hrule
        rfl
    refine .inl ⟨e.kind, by rw [hkind]; decide, fun short => Report.outcome_of_error ?_⟩
    rw [nextRelease_result hv, hrule]
    rfl
  | ok rule =>
    let filled : String → Except Error String := fun short =>
      Template.fill os.name rule.nameTemplate
        (rule.templateData.override (computedFields rule (successorText major minor patch) short))
    by_cases hok : ∃ short name, filled short = .ok name
    · -- the keys of the fields are the same for every short version
      obtain ⟨short₀, hname⟩ := hok
      refine .inr fun short => ?_
      have hkeys : ∀ k, (rule.templateData.override
          (computedFields rule (successorText major minor patch) short₀)).contains k =
            (rule.templateData.override
              (computedFields rule (successorText major minor patch) short)).contains k := by
        intro k
        simp only [Dict.contains_override, contains_computedFields]
      obtain ⟨name, hfill⟩ := Template.fill_congr hkeys hname
      rw [nextRelease_result hv, hrule]
      simp only [bind, Except.bind, hfill]
      exact ⟨_, rfl, rfl⟩
    · refine .inl ⟨.template, by decide, fun short => Report.outcome_error_iff.2 ?_⟩
      cases hfill : filled short with
      | ok name => exact absurd ⟨short, name, hfill⟩ hok
      | error e =>
        refine ⟨e, ?_, Template.fill_error_kind hfill⟩
        rw [nextRelease_result hv, hrule]
        simp only [bind, Except.bind]
        rw [show Template.fill _ _ _ = _ from hfill]

/-- A guess carries the short version that it was made for. -/
theorem nextRelease_shortVersion (h : (p.nextRelease v short flavor os).result = .ok g) :
    g.shortVersion = short := by
  cases hv : v.triple? with
  | none =>
    have hno : (p.nextRelease v short flavor os).outcome = .error .notFound :=
      nextRelease_notFound hv
    rw [Report.outcome_ok_iff.2 h] at hno
    exact nomatch hno
  | some numbers =>
    rcases nextRelease_cases p flavor os (Option.isSome_iff_exists.2 ⟨numbers, hv⟩) with ⟨k, -,
      hk⟩ | hok
    · have hk := hk short
      rw [Report.outcome_ok_iff.2 h] at hk
      exact nomatch hk
    · obtain ⟨g', hg', hs⟩ := hok short
      rw [h] at hg'
      cases hg'
      exact hs

end Policy

/-- The guess that is made when the family's first member and its newest one are
known. -/
def guessFrom (r : Request) (p : Policy) (first newest : Tarball) : Except ErrorKind Tarball :=
  (p.nextRelease newest.parsedVersion first.shortVersion r.flavor r.os).outcome

theorem guessFrom_ok (h : guessFrom r p t g = .ok u) : u.shortVersion = t.shortVersion :=
  Policy.nextRelease_shortVersion (Report.outcome_ok_iff.1 h)

theorem resolveGuess_outcome :
    (resolveGuess l r p).outcome =
      if r.shortVersion ∈ p.allowedVersions then
        match r.family.select l with
        | [] => .error .notFound
        | first :: rest => guessFrom r p first (rest.foldl newer first)
      else .error .unsupportedGuess := by
  unfold Report.outcome resolveGuess Policy.checkAllowed
  rw [Report.result_bind, Report.result_ofExcept]
  split
  · cases r.family.select l with
    | nil => rfl
    | cons first rest =>
      show Except.mapError _
          (p.nextRelease ((rest.map (·.parsedVersion)).foldl Version.newer _) _ _ _).result = _
      rw [foldl_newer_parsedVersion]
      rfl
  · rfl

/-- In every order of the list the guess is made from some member and one that
precedes none. -/
theorem resolveGuess_found (ha : r.shortVersion ∈ p.allowedVersions)
    (hne : r.family.select l ≠ []) :
    ∃ first ∈ r.family.select l, ∃ t, Unsurpassed t (r.family.select l) ∧
      (resolveGuess l r p).outcome = guessFrom r p first t := by
  obtain ⟨first, rest, hl⟩ := List.exists_cons_of_ne_nil hne
  rw [resolveGuess_outcome, if_pos ha, hl]
  exact ⟨first, List.mem_cons_self, _, foldl_newer_unsurpassed first rest, rfl⟩

/-- In some order it is made from any given member and one that precedes none,
which is the same one if it can be. -/
theorem resolveGuess_first (ha : r.shortVersion ∈ p.allowedVersions)
    (ht : t ∈ r.family.select tarballs) :
    ∃ l, l.Perm tarballs ∧ ∃ u, Unsurpassed u (r.family.select tarballs) ∧
      (Unsurpassed t (r.family.select tarballs) → u = t) ∧
        (resolveGuess l r p).outcome = guessFrom r p t u := by
  obtain ⟨l, rest, hp, hl⟩ := r.family.exists_first ht
  have hs := r.family.select_perm hp
  rw [hl] at hs
  refine ⟨l, hp, rest.foldl newer t, (foldl_newer_unsurpassed t rest).perm hs, fun hmax => ?_, ?_⟩
  · exact foldl_newer_of_unsurpassed fun u hu => hmax.2 u (hs.mem_iff.1 (List.mem_cons_of_mem _ hu))
  · rw [resolveGuess_outcome, if_pos ha, hl]

/-- If no shadowed member lacks the patch number of a greatest one, all that
precede none have the same first three numbers. -/
theorem Unsurpassed.triple?_eq (hg : Greatest g l)
    (h : Shadowed t g l → g.parsedVersion.triple?.isSome → t.parsedVersion.triple?.isSome)
    (ht : Unsurpassed t l) : t.parsedVersion.triple? = g.parsedVersion.triple? := by
  have hprefix := (hg.unsurpassed_iff ht.1).1 ht
  by_cases hsome : t.parsedVersion.triple?.isSome
  · exact hprefix.triple?_eq hsome
  · by_cases hv : t.parsedVersion = g.parsedVersion
    · rw [hv]
    · have hnone : ¬ g.parsedVersion.triple?.isSome := fun hgs => hsome (h ⟨ht.1, hprefix, hv⟩ hgs)
      rw [Option.not_isSome_iff_eq_none] at hsome hnone
      rw [hsome, hnone]

/-- Two guesses from a family agree if no shadowed member lacks the patch number
of a greatest one, and the short versions that they carry are the same wherever
they are made. -/
theorem guessFrom_eq {f f' t' : Tarball} (hg : Greatest g l)
    (hpatch : ∀ t, Shadowed t g l → g.parsedVersion.triple?.isSome → t.parsedVersion.triple?.isSome)
    (ht : Unsurpassed t l) (ht' : Unsurpassed t' l)
    (hshort : ∀ x, guessFrom r p f t = .ok x → f.shortVersion = f'.shortVersion) :
    guessFrom r p f t = guessFrom r p f' t' := by
  have htriple := Unsurpassed.triple?_eq hg (hpatch t) ht
  have htriple' := Unsurpassed.triple?_eq hg (hpatch t') ht'
  rw [guessFrom, Policy.nextRelease_congr htriple] at hshort ⊢
  rw [guessFrom, Policy.nextRelease_congr htriple']
  by_cases hsome : g.parsedVersion.triple?.isSome
  · rcases Policy.nextRelease_cases p r.flavor r.os hsome with ⟨k, -, hall⟩ | hok
    · rw [hall, hall]
    · obtain ⟨x, hx, -⟩ := hok f.shortVersion
      rw [hshort x (Report.outcome_ok_iff.2 hx)]
  · rw [Option.not_isSome_iff_eq_none] at hsome
    rw [Policy.nextRelease_notFound hsome, Policy.nextRelease_notFound hsome]

/-- If the order does not matter, no shadowed member lacks a patch number that
the member has which shadows it. -/
theorem patch_of_shadowed
    (h : ∀ l, l.Perm tarballs → (resolveGuess l r p).outcome = (resolveGuess tarballs r p).outcome)
    (ha : r.shortVersion ∈ p.allowedVersions) (hg : Greatest g (r.family.select tarballs))
    (hs : Shadowed t g (r.family.select tarballs)) (hsome : g.parsedVersion.triple?.isSome) :
    t.parsedVersion.triple?.isSome := by
  by_contra hnone
  -- with the shadowed member first there is no release to guess from, with the other
  -- there is
  have ht : Unsurpassed t (r.family.select tarballs) := (hg.unsurpassed_iff hs.1).2 hs.2.1
  obtain ⟨lt, hpt, _, -, hst, hot⟩ := resolveGuess_first ha ht.1
  obtain ⟨lg, hpg, _, -, hsg, hog⟩ := resolveGuess_first ha hg.1
  rw [hst ht, guessFrom, Policy.nextRelease_notFound (by simpa using hnone)] at hot
  rw [hsg hg.unsurpassed] at hog
  have hfound : guessFrom r p g g = .error .notFound := by
    rw [← hog, ← hot, h lt hpt, h lg hpg]
  rcases Policy.nextRelease_cases p r.flavor r.os hsome with ⟨k, hk, hall⟩ | hok
  · exact hk (Except.error.inj ((hall g.shortVersion).symm.trans hfound))
  · obtain ⟨x, hx, -⟩ := hok g.shortVersion
    exact nomatch (Report.outcome_ok_iff.2 hx).symm.trans hfound

/-- **The order of the list does not change a guess exactly if no member that is
shadowed by a greatest one lacks a patch number which that one has, and all
members have the same short version wherever a guess is made.** -/
theorem resolveGuess_perm_iff (tarballs : List Tarball) (r : Request) (p : Policy) :
    (∀ l, l.Perm tarballs → (resolveGuess l r p).outcome = (resolveGuess tarballs r p).outcome) ↔
      (r.shortVersion ∈ p.allowedVersions →
        (∀ g t, Greatest g (r.family.select tarballs) → Shadowed t g (r.family.select tarballs) →
          g.parsedVersion.triple?.isSome → t.parsedVersion.triple?.isSome) ∧
        (∀ g, (resolveGuess tarballs r p).result = .ok g → ∀ t ∈ r.family.select tarballs,
          ∀ u ∈ r.family.select tarballs, t.shortVersion = u.shortVersion)) := by
  constructor
  · intro h ha
    refine ⟨fun g t hg hs hsome => patch_of_shadowed h ha hg hs hsome, ?_⟩
    intro x hx
    -- each member comes first in some order, and the guess carries its short version then
    have hshort : ∀ t ∈ r.family.select tarballs, x.shortVersion = t.shortVersion := by
      intro t ht
      obtain ⟨l, hp, u, -, -, ho⟩ := resolveGuess_first ha ht
      rw [h l hp, Report.outcome_ok_iff.2 hx] at ho
      exact guessFrom_ok ho.symm
    exact fun t ht u hu => (hshort t ht).symm.trans (hshort u hu)
  · intro h l hp
    by_cases ha : r.shortVersion ∈ p.allowedVersions
    · obtain ⟨hpatch, hshort⟩ := h ha
      have hs := r.family.select_perm hp
      by_cases hne : r.family.select tarballs = []
      · have hnil : r.family.select l = [] := List.perm_nil.1 (hne ▸ hs)
        rw [resolveGuess_outcome, resolveGuess_outcome, hne, hnil]
      · have hne' : r.family.select l ≠ [] := fun hnil => hne (List.nil_perm.1 (hnil ▸ hs))
        obtain ⟨f, hf, t, ht, ho⟩ := resolveGuess_found ha hne
        obtain ⟨f', hf', t', ht', ho'⟩ := resolveGuess_found ha hne'
        obtain ⟨g, hg⟩ := exists_greatest hne
        rw [ho, ho']
        refine (guessFrom_eq hg (fun t => hpatch g t hg) ht (ht'.perm hs) fun x hx => ?_).symm
        exact hshort x (Report.outcome_ok_iff.1 (ho.trans hx)) f hf f' (hs.mem_iff.1 hf')
    · rw [resolveGuess_outcome, resolveGuess_outcome, if_neg ha, if_neg ha]

/-- With `8.0` listed before `8.0.36` there is no release to guess from, and
with the two listed the other way round the guess is `8.0.37`. -/
theorem resolveGuess_misses :
    let short : Tarball :=
      { name := "mysql-8.0.tar.gz", checksum := "MD5:1", os := "linux", arch := "amd64", url := "u",
        flavor := "mysql", shortVersion := "8.0", version := "8.0" }
    let long : Tarball := { short with name := "mysql-8.0.36.tar.gz", version := "8.0.36" }
    let r : Request := ⟨"8.0", "mysql", .linux, .amd64, false, false⟩
    checkUnique [short, long] = .ok () ∧
      (resolveGuess [short, long] r .default).outcome = .error .notFound ∧
      (resolveGuess [long, short] r .default).result.map (·.version) = .ok "8.0.37" := by
  decide +kernel

end ReleaseCatalog
