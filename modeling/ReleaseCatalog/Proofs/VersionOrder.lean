import ReleaseCatalog.Version

/-!
# The two orders of versions

Versions are compared in two ways. `Version.compare` is total;
`Version.precedes` only looks at the first number that differs and says nothing
where one version continues the other.

* `Version.compare_eq_compareLex`: looking for a number that differs first, and
  at the lengths last, comes to comparing place by place, so `Version.compare`
  is a lawful total order (the instances below).
* `Version.compare_lt_iff`: it is `precedes`, and a version before those that
  continue it.
* `Version.precedes_of_prefix`: what precedes a version precedes all that continue it.
-/

namespace ReleaseCatalog.Version

open Std

variable {a b : UInt64} {as bs cs : List UInt64} {v w x : Version}

@[simp] theorem segmentsPrecede_nil_left : segmentsPrecede [] bs = false := by
  unfold segmentsPrecede; rfl

@[simp] theorem segmentsPrecede_nil_right : segmentsPrecede as [] = false := by cases as <;> rfl

theorem segmentsPrecede_cons :
    segmentsPrecede (a :: as) (b :: bs) = true ↔ a < b ∨ a = b ∧ segmentsPrecede as bs = true := by
  rw [segmentsPrecede]
  by_cases h : a = b
  · subst h
    have hirr : ¬ a < a := UInt64.lt_irrefl a
    simp [hirr]
  · simp [h]

theorem segmentsPrecede_trans (hab : segmentsPrecede as bs = true)
    (hbc : segmentsPrecede bs cs = true) :
    segmentsPrecede as cs = true := by
  induction as generalizing bs cs with
  | nil => simp at hab
  | cons a as ih =>
    cases bs with
    | nil => simp at hab
    | cons b bs =>
      cases cs with
      | nil => simp at hbc
      | cons c cs =>
        rw [segmentsPrecede_cons] at hab hbc ⊢
        rcases hab with hab | ⟨rfl, hab⟩ <;> rcases hbc with hbc | ⟨rfl, hbc⟩
        · exact .inl (UInt64.lt_trans hab hbc)
        · exact .inl hab
        · exact .inl hbc
        · exact .inr ⟨rfl, ih hab hbc⟩

/-- What comes after the first number that differs does not matter. -/
theorem segmentsPrecede_of_prefix {as' bs' : List UInt64} (h : segmentsPrecede as bs = true)
    (ha : as <+: as') (hb : bs <+: bs') : segmentsPrecede as' bs' = true := by
  induction as generalizing bs as' bs' with
  | nil => simp at h
  | cons a as ih =>
    cases bs with
    | nil => simp at h
    | cons b bs =>
      obtain ⟨as'', rfl⟩ := ha
      obtain ⟨bs'', rfl⟩ := hb
      rw [segmentsPrecede_cons] at h
      simp only [List.cons_append, segmentsPrecede_cons]
      rcases h with h | ⟨rfl, h⟩
      · exact .inl h
      · exact .inr ⟨rfl, ih h (List.prefix_append ..) (List.prefix_append ..)⟩

/-- **Comparing numbers first and lengths last is comparing place by place**, a
list before its continuations. -/
theorem compareLex_segments (as bs : List UInt64) :
    List.compareLex Ord.compare as bs =
      if segmentsPrecede as bs then .lt
      else if segmentsPrecede bs as then .gt
      else Ord.compare as.length bs.length := by
  induction as generalizing bs with
  | nil => cases bs <;> rfl
  | cons a as ih =>
    cases bs with
    | nil => rfl
    | cons b bs =>
      rw [List.compareLex_cons_cons, segmentsPrecede, segmentsPrecede]
      by_cases hab : a = b
      · subst hab
        have hself : Ord.compare a a = .eq := ReflCmp.compare_self
        have hlength : Ord.compare (as.length + 1) (bs.length + 1) =
            Ord.compare as.length bs.length := by
          simp only [Nat.compare_eq_ite_lt, Nat.add_lt_add_iff_right]
        rw [hself, if_pos rfl, if_pos rfl, List.length_cons, List.length_cons, hlength]
        exact ih bs
      · rw [if_neg hab, if_neg (Ne.symm hab)]
        by_cases hlt : a < b
        · rw [compare_eq_lt.2 hlt, if_pos (decide_eq_true hlt)]
          rfl
        · have hgt : b < a := UInt64.lt_of_le_of_ne (UInt64.not_lt.1 hlt) (Ne.symm hab)
          rw [compare_eq_gt.2 hgt, if_neg (by simpa using hlt), if_pos (decide_eq_true hgt)]
          rfl

theorem compare_eq_compareLex (v w : Version) :
    v.compare w = List.compareLex Ord.compare v.segments w.segments :=
  (compareLex_segments v.segments w.segments).symm

/-- **The total order is the partial one, and a list before its continuations.** -/
theorem compareLex_lt_iff :
    List.compareLex Ord.compare as bs = .lt ↔
      segmentsPrecede as bs = true ∨ as <+: bs ∧ as ≠ bs := by
  induction as generalizing bs with
  | nil => cases bs <;> simp [List.compareLex]
  | cons a as ih =>
    cases bs with
    | nil => simp [List.compareLex]
    | cons b bs =>
      have hlt : Ord.compare a b = .lt ↔ a < b := compare_eq_lt
      have heq : Ord.compare a b = .eq ↔ a = b := LawfulEqOrd.compare_eq_iff_eq
      rw [List.compareLex_cons_cons, Ordering.then_eq_lt, segmentsPrecede_cons, hlt, heq, ih,
        List.cons_prefix_cons]
      by_cases h : a = b
      · subst h
        simp
      · simp [h]

instance : TransCmp Version.compare where
  eq_swap {v w} := by
    rw [compare_eq_compareLex, compare_eq_compareLex]
    exact OrientedCmp.eq_swap
  isLE_trans {v w x} := by
    rw [compare_eq_compareLex, compare_eq_compareLex, compare_eq_compareLex]
    exact TransCmp.isLE_trans

instance : LawfulEqCmp Version.compare where
  eq_of_compare {v w} h := by
    rw [compare_eq_compareLex, LawfulEqCmp.compare_eq_iff_eq] at h
    cases v; cases w; cases h; rfl

/-- A version continues another one, or is the same. -/
def IsPrefix (v w : Version) : Prop := v.segments <+: w.segments

instance : DecidableRel IsPrefix :=
  fun v w => inferInstanceAs (Decidable (v.segments <+: w.segments))

theorem IsPrefix.refl (v : Version) : v.IsPrefix v := List.prefix_refl _

theorem compare_lt_iff : v.compare w = .lt ↔ v.precedes w = true ∨ v.IsPrefix w ∧ v ≠ w := by
  have hne : v ≠ w ↔ v.segments ≠ w.segments := by
    cases v; cases w; simp
  rw [hne, compare_eq_compareLex]
  exact compareLex_lt_iff

theorem compare_of_precedes (h : v.precedes w = true) : v.compare w = .lt :=
  compare_lt_iff.2 (.inl h)

/-- The total order is total: what is not above a version is that version or
below it. -/
theorem compare_ne_gt_iff : v.compare w ≠ .gt ↔ v.precedes w = true ∨ v.IsPrefix w := by
  by_cases h : v = w
  · subst h
    simp [ReflCmp.compare_self, IsPrefix.refl]
  · have hne : v.compare w ≠ .eq := fun he => h (LawfulEqCmp.eq_of_compare he)
    have hlt := compare_lt_iff (v := v) (w := w)
    cases hc : v.compare w with
    | lt => exact iff_of_true (by simp) ((hlt.1 hc).imp id And.left)
    | eq => exact absurd hc hne
    | gt =>
      -- a proper prefix is below, as is what precedes
      refine iff_of_false (by simp) fun hor => ?_
      exact nomatch hc ▸ hlt.2 (hor.imp id fun hp => ⟨hp, h⟩)

theorem precedes_irrefl (v : Version) : v.precedes v = false := by
  refine Bool.eq_false_iff.2 fun h => ?_
  have hlt := compare_of_precedes h
  have hself : v.compare v = .eq := ReflCmp.compare_self
  rw [hself] at hlt
  exact nomatch hlt

theorem ne_of_precedes (h : v.precedes w = true) : v ≠ w := by
  rintro rfl
  rw [precedes_irrefl] at h
  exact nomatch h

theorem precedes_trans (h : v.precedes w = true) (h' : w.precedes x = true) : v.precedes x = true :=
  segmentsPrecede_trans h h'

/-- What precedes a version precedes all that continue it, and stays so if it is
continued. -/
theorem precedes_of_prefix {v' w' : Version} (h : v.precedes w = true) (hv : v.IsPrefix v')
    (hw : w.IsPrefix w') : v'.precedes w' = true :=
  segmentsPrecede_of_prefix h hv hw

/-- Of two versions where one continues the other, the shorter does not precede. -/
theorem not_precedes_of_prefix (h : v.IsPrefix w) : v.precedes w = false := by
  refine Bool.eq_false_iff.2 fun hp => ?_
  have hw := precedes_of_prefix hp h (.refl w)
  rw [precedes_irrefl] at hw
  exact nomatch hw

end ReleaseCatalog.Version
