import ReleaseCatalog.Proofs.CatalogOrder

/-!
# How two versions stand to each other

Of two version texts either one precedes the other by the first number that
differs, or they have the same numbers, or one is continued by the other. To be
continued is no order: `8.0` is continued by `8.0.1` and by `8.0.2`, of which one
precedes the other. The total order puts a version before those that continue it.

* `Version.precedes_or_isPrefix`: of two versions one precedes the other, or one
  is a prefix of the other.
* `Version.agrees_iff`: comparing place by place finds out whether the numbers
  are the same.
* `Version.count_standings`: two versions stand to each other in exactly one of
  the four ways.
* `SortKey.compareVersions_extends`: all of it for texts, and the total order
  that comes of it.
-/

namespace ReleaseCatalog

open Std

namespace Version

variable {as bs : List UInt64} {v w : Version}

/-- The other version has the numbers of this one, and at least one more. -/
def IsProperPrefix (v w : Version) : Prop := v.IsPrefix w ∧ v ≠ w

instance : DecidableRel IsProperPrefix :=
  fun v w => inferInstanceAs (Decidable (v.IsPrefix w ∧ v ≠ w))

/-- **Two lists of numbers differ somewhere, or one continues the other.** -/
theorem segmentsPrecede_or_prefix (as bs : List UInt64) :
    segmentsPrecede as bs = true ∨ segmentsPrecede bs as = true ∨ as <+: bs ∨ bs <+: as := by
  induction as generalizing bs with
  | nil => exact .inr (.inr (.inl List.nil_prefix))
  | cons a as ih =>
    cases bs with
    | nil => exact .inr (.inr (.inr List.nil_prefix))
    | cons b bs =>
      rw [segmentsPrecede_cons, segmentsPrecede_cons, List.cons_prefix_cons, List.cons_prefix_cons]
      by_cases hab : a = b
      · -- the first numbers are the same, so those after them decide
        subst hab
        rcases ih bs with h | h | h | h
        · exact .inl (.inr ⟨rfl, h⟩)
        · exact .inr (.inl (.inr ⟨rfl, h⟩))
        · exact .inr (.inr (.inl ⟨rfl, h⟩))
        · exact .inr (.inr (.inr ⟨rfl, h⟩))
      · rcases UInt64.lt_or_lt_of_ne hab with hlt | hlt
        · exact .inl (.inl hlt)
        · exact .inr (.inl (.inl hlt))

theorem precedes_or_isPrefix (v w : Version) :
    v.precedes w = true ∨ w.precedes v = true ∨ v.IsPrefix w ∨ w.IsPrefix v :=
  segmentsPrecede_or_prefix v.segments w.segments

/-- **Of two versions at most one precedes the other.** -/
theorem precedes_asymm (h : v.precedes w = true) : w.precedes v = false := by
  apply Bool.eq_false_iff.2
  intro hback
  have hself := precedes_trans h hback
  exact ne_of_precedes hself rfl

/-- Neither of two versions continues the other if one precedes. -/
theorem not_isPrefix_of_precedes (h : v.precedes w = true) : ¬ v.IsPrefix w ∧ ¬ w.IsPrefix v := by
  constructor
  · intro hprefix
    have hnot := not_precedes_of_prefix hprefix
    rw [hnot] at h
    exact nomatch h
  · intro hprefix
    have hself := precedes_of_prefix h (.refl v) hprefix
    exact ne_of_precedes hself rfl

theorem zip_all_beq_iff (hlength : as.length = bs.length) :
    (as.zip bs).all (fun (a, b) => a == b) = true ↔ as = bs := by
  induction as generalizing bs with
  | nil =>
    have hbs : bs = [] := List.length_eq_zero_iff.1 hlength.symm
    simp [hbs]
  | cons a as ih =>
    cases bs with
    | nil => exact nomatch hlength
    | cons b bs =>
      have htail : as.length = bs.length := Nat.succ.inj hlength
      rw [List.zip_cons_cons, List.all_cons, Bool.and_eq_true, ih htail, beq_iff_eq,
        List.cons.injEq]

/-- **Comparing place by place finds out whether the numbers are the same.** -/
theorem agrees_iff : v.agrees w = true ↔ v.segments = w.segments := by
  unfold agrees
  rw [Bool.and_eq_true, beq_iff_eq]
  constructor
  · rintro ⟨hlength, hall⟩
    exact (zip_all_beq_iff hlength).1 hall
  · intro hsegments
    have hlength := congrArg List.length hsegments
    exact ⟨hlength, (zip_all_beq_iff hlength).2 hsegments⟩

theorem agrees_iff_eq : v.agrees w = true ↔ v = w := by
  rw [agrees_iff]
  cases v
  cases w
  exact (mk.injEq _ _).to_iff.symm

/-- The four ways in which two versions can stand to each other: either
precedes, they have the same numbers, or one of them continues the other. -/
def standings (v w : Version) : List Bool :=
  [v.precedes w, w.precedes v, v.agrees w, v.IsProperPrefix w ∨ w.IsProperPrefix v]

/-- The ways are the same from the other side, but for which precedes. -/
theorem standings_perm (v w : Version) : (standings v w).Perm (standings w v) := by
  have hagrees : v.agrees w = w.agrees v := by
    rw [Bool.eq_iff_iff, agrees_iff_eq, agrees_iff_eq, eq_comm]
  unfold standings
  rw [hagrees]
  simp only [or_comm (a := v.IsProperPrefix w)]
  exact List.Perm.swap _ _ _

theorem standings_of_precedes (h : v.precedes w = true) :
    standings v w = [true, false, false, false] := by
  have hback := precedes_asymm h
  have hagrees : v.agrees w = false := by
    apply Bool.eq_false_iff.2
    intro heq
    exact ne_of_precedes h (agrees_iff_eq.1 heq)
  obtain ⟨hforth, hover⟩ := not_isPrefix_of_precedes h
  have hproper : ¬ (v.IsProperPrefix w ∨ w.IsProperPrefix v) := by
    rintro (hp | hp)
    · exact hforth hp.1
    · exact hover hp.1
  rw [standings, h, hback, hagrees, decide_eq_false hproper]

theorem standings_of_isPrefix (h : v.IsPrefix w) :
    standings v w = [false, false, decide (v = w), decide (v ≠ w)] := by
  have hforth := not_precedes_of_prefix h
  have hback : w.precedes v = false := by
    apply Bool.eq_false_iff.2
    intro hprecedes
    exact (not_isPrefix_of_precedes hprecedes).2 h
  have hagrees : v.agrees w = decide (v = w) := by
    rw [Bool.eq_iff_iff, agrees_iff_eq, decide_eq_true_iff]
  have hproper : v.IsProperPrefix w ∨ w.IsProperPrefix v ↔ v ≠ w := by
    constructor
    · rintro (hp | hp)
      · exact hp.2
      · exact hp.2.symm
    · intro hne
      exact .inl ⟨h, hne⟩
  rw [standings, hforth, hback, hagrees]
  simp only [hproper]

/-- **Two versions stand to each other in exactly one of the four ways.** -/
theorem count_standings (v w : Version) : (standings v w).count true = 1 := by
  have hcount : ∀ {v w : Version}, v.IsPrefix w → (standings v w).count true = 1 := by
    intro v w h
    rw [standings_of_isPrefix h]
    by_cases heq : v = w
    · simp [heq]
    · simp [heq]
  rcases precedes_or_isPrefix v w with h | h | h | h
  · rw [standings_of_precedes h]
    rfl
  · rw [(standings_perm v w).count_eq, standings_of_precedes h]
    rfl
  · exact hcount h
  · rw [(standings_perm v w).count_eq]
    exact hcount h

/-- Two versions that stand in the fourth way to a third one may stand in
another way to each other. -/
example :
    standings (ofText "8.0.1") (ofText "8.0") = [false, false, false, true] ∧
      standings (ofText "8.0") (ofText "8.0.2") = [false, false, false, true] ∧
      standings (ofText "8.0.1") (ofText "8.0.2") = [true, false, false, false] := by
  decide +kernel

theorem compare_eq_iff : v.compare w = .eq ↔ v.agrees w = true := by
  rw [agrees_iff_eq]
  exact LawfulEqCmp.compare_eq_iff_eq

theorem compare_gt_iff : v.compare w = .gt ↔ w.precedes v = true ∨ w.IsProperPrefix v := by
  have hswap : w.compare v = .lt ↔ v.compare w = .gt := OrientedCmp.gt_iff_lt.symm
  rw [← hswap]
  exact compare_lt_iff

end Version

namespace SortKey

/-- **The total order of version texts extends the partial one.**

The total order turns around with its arguments and is transitive. By the first
number that differs no version precedes itself, of two at most one precedes, and
what precedes a version precedes all that it precedes. Two texts agree exactly
if the same numbers are read from them. Of any two versions either one precedes,
or the other one, or they agree, or one properly continues the other, and no two
of these hold together. A text is below another one if it precedes or is
continued by it, and equal to it if the two agree. -/
theorem compareVersions_extends (a b c : String) :
    compareVersions b a = (compareVersions a b).swap ∧
    ((compareVersions a b).isLE = true → (compareVersions b c).isLE = true →
      (compareVersions a c).isLE = true) ∧
    let v := Version.ofText a
    let w := Version.ofText b
    let x := Version.ofText c
    v.precedes v = false ∧
    (v.precedes w = true → w.precedes v = false) ∧
    (v.precedes w = true → w.precedes x = true → v.precedes x = true) ∧
    (v.agrees w = true ↔ v.segments = w.segments) ∧
    (Version.standings v w).count true = 1 ∧
    (compareVersions a b = .lt ↔ v.precedes w = true ∨ v.IsProperPrefix w) ∧
    (compareVersions a b = .eq ↔ v.agrees w = true) ∧
    (compareVersions a b = .gt ↔ w.precedes v = true ∨ w.IsProperPrefix v) := by
  refine ⟨OrientedCmp.eq_swap, TransCmp.isLE_trans, ?_⟩
  intro v w x
  have hlt : compareVersions a b = .lt ↔ v.precedes w = true ∨ v.IsProperPrefix w :=
    Version.compare_lt_iff
  have heq : compareVersions a b = .eq ↔ v.agrees w = true := Version.compare_eq_iff
  have hgt : compareVersions a b = .gt ↔ w.precedes v = true ∨ w.IsProperPrefix v :=
    Version.compare_gt_iff
  exact ⟨Version.precedes_irrefl v, Version.precedes_asymm, Version.precedes_trans,
    Version.agrees_iff, Version.count_standings v w, hlt, heq, hgt⟩

/-- Three texts, each older than the next by its second number, though the last
two are not plainly written. -/
theorem compareVersions_extends_minor :
    let v := Version.ofText "5.2.1"
    let w := Version.ofText "5.10.x"
    let x := Version.ofText " 5.+11.0.3"
    (v.precedes w = true ∧ w.precedes x = true) ∧ w.precedes v = false ∧ v.precedes x = true ∧
      (compareVersions "5.2.1" " 5.+11.0.3").isLE = true := by
  intro v w x
  have hvw : v.precedes w = true := by decide +kernel
  have hwx : w.precedes x = true := by decide +kernel
  have habove : (compareVersions "5.2.1" "5.10.x").isLE = true := by decide +kernel
  have hbelow : (compareVersions "5.10.x" " 5.+11.0.3").isLE = true := by decide +kernel
  obtain ⟨-, hle, -, hasymm, htrans, -⟩ := compareVersions_extends "5.2.1" "5.10.x" " 5.+11.0.3"
  exact ⟨⟨hvw, hwx⟩, hasymm hvw, htrans hvw hwx, hle habove hbelow⟩

end SortKey

end ReleaseCatalog
