import ReleaseCatalog.Text.Search

/-!
# What a search finds

* `takeWhile_run`, `dropWhile_run`, `head?_dropWhile`: a run of characters of
  one class ends where the class does.
* `leftmost_eq_some_iff`: what is found stands at the first place at which there
  is anything to be found.
* `exists_suffix_of_leftmost`: so it stands at the front of an end of the text.
* `leftmost_of_front`: what is found at the front is found first.
* `leftmost_append`: characters that nothing to be found starts with are passed over.
-/

namespace ReleaseCatalog.Text

variable {α : Type} {find : List Char → Option α} {a : α} {p s : List Char}

section Run

variable {class? : Char → Bool} {run rest : List Char}

theorem takeWhile_run (hrun : ∀ c ∈ run, class? c = true)
    (hrest : ∀ c ∈ rest.head?, class? c = false) :
    (run ++ rest).takeWhile class? = run := by
  rw [List.takeWhile_append_of_pos hrun]
  cases rest with
  | nil => exact List.append_nil run
  | cons c rest =>
    rw [List.takeWhile_cons_of_neg (Bool.eq_false_iff.1 (hrest c rfl)), List.append_nil]

theorem dropWhile_run (hrun : ∀ c ∈ run, class? c = true)
    (hrest : ∀ c ∈ rest.head?, class? c = false) :
    (run ++ rest).dropWhile class? = rest := by
  rw [List.dropWhile_append_of_pos hrun]
  cases rest with
  | nil => rfl
  | cons c rest => rw [List.dropWhile_cons_of_neg (Bool.eq_false_iff.1 (hrest c rfl))]

/-- What is left behind a run of a class does not go on with the class. -/
theorem head?_dropWhile (class? : Char → Bool) (s : List Char) :
    ∀ c ∈ (s.dropWhile class?).head?, class? c = false := by
  intro c hc
  have hnot := List.head?_dropWhile_not class? s
  rw [hc] at hnot
  exact hnot

end Run

/-- **What is found stands at the first place at which there is anything to be
found.** -/
theorem leftmost_eq_some_iff :
    leftmost find s = some a ↔
      ∃ front t, s = front ++ t ∧ find t = some a ∧
        ∀ u, u ≠ [] → u <:+ front → find (u ++ t) = none := by
  induction s with
  | nil =>
    constructor
    · intro h
      exact ⟨[], [], rfl, h, fun u hne hu => absurd (List.suffix_nil.1 hu) hne⟩
    · rintro ⟨front, t, hs, ht, -⟩
      obtain ⟨rfl, rfl⟩ := List.append_eq_nil_iff.1 hs.symm
      exact ht
  | cons c rest ih =>
    rw [leftmost]
    cases hfind : find (c :: rest) with
    | some found =>
      constructor
      · intro h
        exact ⟨[], c :: rest, rfl, hfind.trans h, fun u hne hu => absurd (List.suffix_nil.1 hu) hne⟩
      · rintro ⟨front, t, hs, ht, hfirst⟩
        cases front with
        | nil =>
          obtain rfl : c :: rest = t := hs
          exact hfind.symm.trans ht
        | cons d front =>
          have hnone := hfirst (d :: front) (List.cons_ne_nil _ _) (List.suffix_refl _)
          rw [← hs, hfind] at hnone
          exact absurd hnone (Option.some_ne_none found)
    | none =>
      rw [ih]
      constructor
      · rintro ⟨front, t, rfl, ht, hfirst⟩
        refine ⟨c :: front, t, rfl, ht, fun u hne hu => ?_⟩
        rcases List.suffix_cons_iff.1 hu with rfl | hu
        · exact hfind
        · exact hfirst u hne hu
      · rintro ⟨front, t, hs, ht, hfirst⟩
        cases front with
        | nil =>
          obtain rfl : c :: rest = t := hs
          rw [hfind] at ht
          exact absurd ht.symm (Option.some_ne_none a)
        | cons d front =>
          obtain ⟨rfl, rfl⟩ := List.cons.inj hs
          exact ⟨front, t, rfl, ht,
            fun u hne hu => hfirst u hne (hu.trans (List.suffix_cons c front))⟩

theorem exists_suffix_of_leftmost (h : leftmost find s = some a) :
    ∃ t, t <:+ s ∧ find t = some a := by
  obtain ⟨front, t, rfl, ht, -⟩ := leftmost_eq_some_iff.1 h
  exact ⟨t, List.suffix_append front t, ht⟩

theorem isSome_after?_iff : (after? p s).isSome = true ↔ p <+: s := by
  rw [Option.isSome_iff_exists]
  constructor
  · rintro ⟨rest, h⟩
    exact ⟨rest, (after?_eq_some_iff.1 h).symm⟩
  · rintro ⟨rest, h⟩
    exact ⟨rest, after?_eq_some_iff.2 h.symm⟩

theorem leftmost_of_front (h : find s = some a) : leftmost find s = some a := by
  cases s with
  | nil => exact h
  | cons c rest => rw [leftmost, h]

/-- **What cannot stand at the front of anything found is passed over.** -/
theorem leftmost_append (h : ∀ c ∈ p, ∀ rest, find (c :: rest) = none) :
    leftmost find (p ++ s) = leftmost find s := by
  induction p with
  | nil => rfl
  | cons c p ih =>
    rw [List.cons_append, leftmost, h c List.mem_cons_self]
    exact ih fun x hx => h x (List.mem_cons_of_mem c hx)

end ReleaseCatalog.Text
