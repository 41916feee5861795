/-!
# Cutting a text at a mark

`pieces c s` are the parts of a text between the occurrences of `c`, one more
than there are occurrences; `joined c` puts them back together.

* `joined_pieces`: cutting and joining gives the text back;
* `length_pieces`: the parts are one more than the marks.
-/

namespace ReleaseCatalog.Text

/-- The parts of a text between the occurrences of a mark. -/
def pieces (c : Char) : List Char → List (List Char)
  | [] => [[]]
  | x :: rest =>
    if x = c then [] :: pieces c rest
    else
      match pieces c rest with
      | [] => [[x]]
      | p :: ps => (x :: p) :: ps

/-- Parts one after another with a mark between. -/
def joined (c : Char) (parts : List (List Char)) : List Char := [c].intercalate parts

theorem pieces_ne_nil (c : Char) (s : List Char) : pieces c s ≠ [] := by
  cases s with
  | nil => simp [pieces]
  | cons x rest =>
    unfold pieces
    split
    · simp
    · split <;> simp

theorem length_pieces (c : Char) (s : List Char) : (pieces c s).length = s.count c + 1 := by
  induction s with
  | nil => rfl
  | cons x rest ih =>
    unfold pieces
    by_cases h : x = c
    · simp [h, ih]
    · have hne := pieces_ne_nil c rest
      cases hp : pieces c rest with
      | nil => exact absurd hp hne
      | cons p ps => simp [h, ← ih, hp]

theorem joined_pieces (c : Char) (s : List Char) : joined c (pieces c s) = s := by
  induction s with
  | nil => simp [pieces, joined]
  | cons x rest ih =>
    have hne := pieces_ne_nil c rest
    unfold pieces
    cases hp : pieces c rest with
    | nil => exact absurd hp hne
    | cons p ps =>
      rw [hp] at ih
      unfold joined at ih ⊢
      by_cases h : x = c
      · simp only [h, if_true]
        rw [List.intercalate_cons_cons, ih]
        simp
      · simp only [h, if_false]
        cases ps with
        | nil => simpa using ih
        | cons q qs =>
          rw [List.intercalate_cons_cons] at ih ⊢
          simpa using ih

end ReleaseCatalog.Text
