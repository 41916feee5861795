import ReleaseCatalog.Proofs.EditRuns
import ReleaseCatalog.Proofs.FileName
import ReleaseCatalog.Proofs.NextRelease

/-!
# Guessing again and again

A guess that is added to the catalog comes behind the family that it was made from,
belongs to it, and is the newest of it. So the next guess is the release after that
one, and whoever guesses and adds again and again counts the patch numbers up.

* `Request.newest?_concat`: the newest version of a family with a member more.
* `Policy.nextRelease_again`: where one guess succeeds, those from other
  versions do, and are on the same line.
* `Poised.resolveGuess_ok`, `Poised.concat`: the step, what is guessed and what
  then is guessed from.
* `Catalog.rounds_consecutive`: the run.
-/

namespace ReleaseCatalog

open Text

/-- The tarballs are of the same line: they differ in name, version and place
alone. -/
structure Tarball.SameLine (t u : Tarball) : Prop where
  shortVersion : t.shortVersion = u.shortVersion
  flavor : t.flavor = u.flavor
  os : t.os = u.os
  arch : t.arch = u.arch
  minimal : t.minimal = u.minimal

/-- The version that the search for the newest member of the family comes to, if
there are members. -/
def Request.newest? (r : Request) (tarballs : List Tarball) : Option Version :=
  match r.family.select tarballs with
  | [] => none
  | first :: rest => some ((rest.map (·.parsedVersion)).foldl Version.newer first.parsedVersion)

/-- How a run of rounds ends. -/
inductive Ending where
  /-- All rounds were made, and this is the catalog now. -/
  | complete (c : Catalog)
  /-- There was no guess. -/
  | notGuessed (e : Error)
  /-- The last guess could not be added. -/
  | notAdded (e : Error)

def Ending.isComplete : Ending → Bool
  | complete _ => true
  | notGuessed _ | notAdded _ => false

/-- Rounds of guessing for a request and adding the guess, up to the first
failure: the guesses, and how it ends. -/
def Catalog.rounds (r : Request) (p : Policy) : ℕ → Catalog → List Tarball × Ending
  | 0, c => ([], .complete c)
  | n + 1, c =>
    match (resolveGuess c.tarballs r p).result with
    | .error e => ([], .notGuessed e)
    | .ok g =>
      match (c.add g).result with
      | .error e => ([g], .notAdded e)
      | .ok c' => (g :: (rounds r p n c').1, (rounds r p n c').2)

variable {tarballs l : List Tarball} {r : Request} {p : Policy} {g g' t : Tarball} {v w : Version}
  {major minor patch next : UInt64}

namespace Request

theorem newest?_cons {first : Tarball} {rest : List Tarball}
    (h : r.family.select l = first :: rest) :
    r.newest? l = some (rest.foldl newer first).parsedVersion := by
  rw [newest?, h]
  exact congrArg some (foldl_newer_parsedVersion first rest)

theorem select_concat (h : r.accepts t = true) : r.select (l ++ [t]) = r.select l ++ [t] := by
  unfold select
  rw [List.filter_append, List.filter_singleton, h]
  rfl

/-- **With a member more at the end the newest version is that one's or the same
as before.** -/
theorem newest?_concat (ht : r.family.accepts t = true) (hv : r.newest? l = some v) :
    r.newest? (l ++ [t]) = some (v.newer t.parsedVersion) := by
  unfold newest? at hv ⊢
  cases hl : r.family.select l with
  | nil =>
    rw [hl] at hv
    exact nomatch hv
  | cons first rest =>
    rw [hl] at hv
    obtain rfl := Option.some.inj hv
    rw [select_concat ht, hl, List.cons_append]
    dsimp only
    rw [List.map_append, List.map_singleton, List.foldl_append, List.foldl_cons, List.foldl_nil]

end Request

namespace Policy

variable {short flavor : String} {os : OperatingSystem}

/-- **Where one guess succeeds, those from other versions succeed, too**: the
fields of the templates are the same for all of them. -/
theorem nextRelease_again (h : (p.nextRelease v short flavor os).result = .ok g)
    (hw : w.triple? = some (major, minor, patch)) :
    ∃ g', (p.nextRelease w short flavor os).result = .ok g' ∧
      g'.version = successorText major minor patch ∧
      g'.SameLine g := by
  obtain ⟨a, b, c, rule, name, -, hrule, hname, rfl⟩ := nextRelease_ok h
  have hkeys : ∀ k, (rule.templateData.override
      (computedFields rule (successorText a b c) short)).contains k =
      (rule.templateData.override
        (computedFields rule (successorText major minor patch) short)).contains k := by
    intro k
    simp only [Dict.contains_override, contains_computedFields]
  obtain ⟨name', hname'⟩ := Template.fill_congr hkeys ⟨name, hname⟩
  have hresult : (p.nextRelease w short flavor os).result = _ := nextRelease_result hw
  rw [hrule] at hresult
  simp only [bind, Except.bind, hname'] at hresult
  exact ⟨_, hresult, rfl, rfl, rfl, rfl, rfl, rfl⟩

end Policy

namespace Request

/-- A guess for the request is a member of its family, if the words of the
request are in lower case. -/
theorem family_accepts_guess (hflavor : lowered r.flavor = r.flavor)
    (hos : lowered r.os.name = r.os.name)
    (h : (p.nextRelease v r.shortVersion r.flavor r.os).result = .ok g) (hline : g'.SameLine g) :
    r.family.accepts g' = true := by
  obtain ⟨_, _, _, _, _, -, -, -, rfl⟩ := Policy.nextRelease_ok h
  refine accepts_family_iff.2 ⟨.inr hline.shortVersion, ?_, ?_, .inl hline.arch⟩
  · rw [hline.flavor]
    exact hflavor
  · rw [hline.os]
    exact hos

end Request

/-- The list is ready for a guess after a patch release: guesses are allowed,
the first member of the family has the short version of the request, and the
newest one has the numbers of that release. -/
structure Poised (r : Request) (p : Policy) (major minor patch : UInt64) (tarballs : List Tarball) :
    Prop where
  allowed : r.shortVersion ∈ p.allowedVersions
  first : ∃ first ∈ (r.family.select tarballs).head?, first.shortVersion = r.shortVersion
  newest : ∃ v ∈ r.newest? tarballs, v.triple? = some (major, minor, patch)

namespace Poised

/-- **The step, first half: the next guess is made**, on the line of any guess
for the request. -/
theorem resolveGuess_ok (h : Poised r p major minor patch tarballs)
    (hg : (p.nextRelease v r.shortVersion r.flavor r.os).result = .ok g) :
    ∃ g', (resolveGuess tarballs r p).result = .ok g' ∧
      g'.version = Policy.successorText major minor patch ∧
      g'.SameLine g := by
  obtain ⟨first, hfirst, hshort⟩ := h.first
  obtain ⟨newest, hnewest, hnumbers⟩ := h.newest
  obtain ⟨rest, hlist⟩ := List.head?_eq_some_iff.1 hfirst
  obtain rfl := Option.some.inj ((Request.newest?_cons hlist).symm.trans hnewest)
  obtain ⟨g', hg', hversion, hline⟩ := Policy.nextRelease_again hg hnumbers
  rw [← hshort] at hg'
  exact ⟨g', resolveGuess_ok_iff.2 ⟨h.allowed, first, rest, hlist, hg'⟩, hversion, hline⟩

/-- **The step, second half: with the guess at its end the list is ready for the
one after it.** -/
theorem concat (h : Poised r p major minor patch tarballs) (ht : r.family.accepts t = true)
    (hversion : t.parsedVersion = ⟨[major, minor, next]⟩) (hnext : next.toNat = patch.toNat + 1) :
    Poised r p major minor next (tarballs ++ [t]) := by
  obtain ⟨first, hfirst, hshort⟩ := h.first
  obtain ⟨newest, hnewest, hnumbers⟩ := h.newest
  refine ⟨h.allowed, ⟨first, ?_, hshort⟩, ⟨_, Request.newest?_concat ht hnewest, ?_⟩⟩
  · rw [Request.select_concat ht, List.head?_append, hfirst]
    rfl
  · have hnewer : newest.precedes t.parsedVersion = true := by
      rw [hversion]
      refine Version.precedes_successor hnumbers hnext ?_ (Version.precedes_irrefl newest)
      rw [hnumbers]
      rfl
    rw [Version.newer, if_pos hnewer, hversion]
    rfl

end Poised

namespace Catalog

variable {c : Catalog} {n : ℕ} {guesses : List Tarball} {ending : Ending}

/-- The tarballs are the patch releases that follow the given one, each once and
in order, on the line of `g`. -/
def Consecutive (g : Tarball) (major minor patch : UInt64) (guesses : List Tarball) : Prop :=
  ∀ i g', guesses[i]? = some g' → g'.SameLine g ∧
    ∃ number : UInt64, number.toNat = patch.toNat + i + 1 ∧
      g'.version = (Version.mk [major, minor, number]).text

theorem consecutive_nil : Consecutive g major minor patch [] := by
  intro i g' h
  exact nomatch h

theorem consecutive_cons (hline : g'.SameLine g) (hnext : next.toNat = patch.toNat + 1)
    (hversion : g'.version = (Version.mk [major, minor, next]).text)
    (h : Consecutive g major minor next guesses) :
    Consecutive g major minor patch (g' :: guesses) := by
  rintro (_ | i) t ht
  · obtain rfl := Option.some.inj ht
    exact ⟨hline, next, by omega, hversion⟩
  · obtain ⟨hline, number, hnumber, hversion⟩ := h i t ht
    exact ⟨hline, number, by omega, hversion⟩

/-- The run made all rounds and added all guesses, or it could not add the last
of its guesses. -/
def AddedUpTo (n : ℕ) (c : Catalog) (guesses : List Tarball) (ending : Ending) : Prop :=
  guesses.length = n ∧ ending = .complete { c with tarballs := c.tarballs ++ guesses } ∨
    ∃ before last e, guesses = before ++ [last] ∧ before.length < n ∧ ending = .notAdded e ∧
      (Catalog.add { c with tarballs := c.tarballs ++ before } last).result = .error e

/-- A run after one guess was added is part of the run that it was added in. -/
theorem addedUpTo_cons (h : AddedUpTo n { c with tarballs := c.tarballs ++ [g] } guesses ending) :
    AddedUpTo (n + 1) c (g :: guesses) ending := by
  have happend : ∀ l, c.tarballs ++ [g] ++ l = c.tarballs ++ g :: l := fun l => by simp
  rcases h with ⟨hlen, hending⟩ | ⟨before, last, e, hsplit, hlen, hending, hadd⟩
  · refine .inl ⟨by rw [List.length_cons, hlen], ?_⟩
    rw [hending, happend]
  · refine .inr ⟨g :: before, last, e, by rw [hsplit, List.cons_append], ?_, hending, ?_⟩
    · rw [List.length_cons]
      omega
    · rw [← happend]
      exact hadd

/-- **The run.** From a list that is ready for the guess after a patch release,
round by round the patch releases behind it are guessed, for as long as they can
be added. -/
theorem rounds_of_poised (hflavor : lowered r.flavor = r.flavor)
    (hos : lowered r.os.name = r.os.name)
    (hg : (p.nextRelease v r.shortVersion r.flavor r.os).result = .ok g)
    (h : Poised r p major minor patch c.tarballs) (hfit : patch.toNat + n < UInt64.size) :
    Consecutive g major minor patch (c.rounds r p n).1 ∧
      AddedUpTo n c (c.rounds r p n).1 (c.rounds r p n).2 := by
  -- on the rounds that are left; each one is ready where the one before has added its guess
  induction n generalizing c patch with
  | zero => exact ⟨consecutive_nil, .inl ⟨rfl, by rw [rounds, List.append_nil]⟩⟩
  | succ n ih =>
    obtain ⟨g', hguess, hversion, hline⟩ := h.resolveGuess_ok hg
    have hnext : (patch + 1).toNat = patch.toNat + 1 := toNat_next (by omega)
    rw [rounds, hguess]
    dsimp only
    cases hadd : (c.add g').result with
    | error e =>
      refine ⟨consecutive_cons hline hnext hversion consecutive_nil,
        .inr ⟨[], g', e, rfl, Nat.succ_pos n, rfl, ?_⟩⟩
      rw [List.append_nil]
      exact hadd
    | ok c' =>
      obtain ⟨-, rfl⟩ := add_ok_iff.1 hadd
      have hfamily := Request.family_accepts_guess hflavor hos hg hline
      have hparsed : g'.parsedVersion = ⟨[major, minor, patch + 1]⟩ := by
        rw [Tarball.parsedVersion, hversion, Policy.ofText_successorText]
      have hpoised := h.concat hfamily hparsed hnext
      obtain ⟨hconsecutive, hadded⟩ :=
        @ih _ { c with tarballs := c.tarballs ++ [g'] } hpoised (by omega)
      exact ⟨consecutive_cons hline hnext hversion hconsecutive, addedUpTo_cons hadded⟩

/-- **Guessing and adding again and again counts the patch numbers up.** If a
guess for a request in lower case has the short version of the request, `n`
rounds of guessing and adding make the `n` patch releases behind the newest
version, all on the line of the first guess. No round is without a guess: a run
that is not complete ended because a guess could not be added. -/
theorem rounds_consecutive (c : Catalog) (r : Request) (p : Policy) (n : ℕ)
    (hflavor : lowered r.flavor = r.flavor) (hos : lowered r.os.name = r.os.name)
    (hg : (resolveGuess c.tarballs r p).result = .ok g) (hshort : g.shortVersion = r.shortVersion)
    (hv : r.newest? c.tarballs = some v) (hnumbers : [major, minor, patch] <+: v.segments)
    (hfit : patch.toNat + n < UInt64.size) :
    Consecutive g major minor patch (c.rounds r p n).1 ∧
      AddedUpTo n c (c.rounds r p n).1 (c.rounds r p n).2 := by
  obtain ⟨hallowed, first, rest, hlist, hnext⟩ := resolveGuess_ok_iff.1 hg
  have hfirst : first.shortVersion = r.shortVersion :=
    (Policy.nextRelease_shortVersion hnext).symm.trans hshort
  rw [hfirst] at hnext
  refine rounds_of_poised hflavor hos hnext ⟨hallowed, ⟨first, ?_, hfirst⟩, ⟨v, hv, ?_⟩⟩ hfit
  · rw [hlist]
    rfl
  · exact Version.triple?_eq_some_iff.2 hnumbers

/-- A family with a version of four numbers as the newest and one of two, beside
a newer release of another flavor: three rounds are made, and the catalog has
their guesses at its end. -/
theorem rounds_consecutive_mixed :
    let patchOf (version : String) : Tarball :=
      { name := version, os := "Linux", flavor := "MySQL", shortVersion := "8.0", version }
    let foreign : Tarball := { patchOf "8.0.40" with flavor := "percona" }
    let c : Catalog := ⟨"0.5.1", "", [patchOf "8.0.9", foreign, patchOf "8.0.36.2", patchOf "8.0"]⟩
    let r : Request := ⟨"8.0.9", "mysql", .linux, .amd64, false, false⟩
    (c.rounds r .default 3).1.map (fun g => (g.version, g.flavor, g.minimal)) =
        [("8.0.37", "mysql", true), ("8.0.38", "mysql", true), ("8.0.39", "mysql", true)] ∧
      (c.rounds r .default 3).2 =
        .complete { c with tarballs := c.tarballs ++ (c.rounds r .default 3).1 } := by
  intro patchOf foreign c r
  refine ⟨by decide +kernel, ?_⟩
  have hguess : (resolveGuess c.tarballs r .default).result.map (·.shortVersion) =
      .ok r.shortVersion := by
    decide +kernel
  obtain ⟨g, hg, hshort⟩ := map_ok_iff.1 hguess
  have hnewest : r.newest? c.tarballs = some ⟨[8, 0, 36, 2]⟩ := by decide +kernel
  have hnumbers : [8, 0, 36] <+: [8, 0, 36, (2 : UInt64)] := by decide
  have hcomplete : (c.rounds r .default 3).2.isComplete = true := by decide +kernel
  obtain ⟨-, hadded⟩ :=
    rounds_consecutive c r .default 3 (by decide +kernel) (by decide +kernel) hg hshort hnewest
      hnumbers (by decide)
  rcases hadded with ⟨-, hending⟩ | ⟨_, _, e, -, -, hending, -⟩
  · exact hending
  · rw [hending] at hcomplete
    exact nomatch hcomplete

end Catalog

end ReleaseCatalog
