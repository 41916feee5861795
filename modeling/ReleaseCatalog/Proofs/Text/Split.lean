import ReleaseCatalog.Text.Split

/-!
# Texts with marks between their parts

* `pieces_eq_splitOn`: cutting at a mark is the library's `List.splitOn`.
* `pieces_joined`: cutting gives back the parts that were joined, if none of
  them has the mark.
* `not_mem_of_mem_pieces`: no part of a text that was cut has the mark.
* `pieces_append`: what stands behind the last mark is the last part.
-/

namespace ReleaseCatalog.Text

variable {c : Char} {p : List Char}

theorem pieces_eq_splitOn (c : Char) (s : List Char) : pieces c s = s.splitOn c := by
  rw [List.splitOn_eq_splitOnP]
  induction s with
  | nil => rw [List.splitOnP_nil, pieces]
  | cons x rest ih =>
    have hne := pieces_ne_nil c rest
    rw [List.splitOnP_cons_eq_if_modifyHead, ← ih, pieces]
    by_cases hx : x = c
    · rw [if_pos hx, if_pos (beq_iff_eq.2 hx)]
    · rw [if_neg hx, if_neg (mt beq_iff_eq.1 hx)]
      -- the first part takes the character, and there always is one
      cases hp : pieces c rest with
      | nil => exact absurd hp hne
      | cons p ps => rfl

/-- **Cutting what was joined.** -/
theorem pieces_joined {parts : List (List Char)} (hne : parts ≠ []) (h : ∀ p ∈ parts, c ∉ p) :
    pieces c (joined c parts) = parts := by
  rw [pieces_eq_splitOn]
  exact List.splitOn_intercalate c h hne

theorem joined_concat {parts : List (List Char)} (hne : parts ≠ []) :
    joined c (parts ++ [p]) = joined c parts ++ c :: p := by
  induction parts with
  | nil => exact absurd rfl hne
  | cons q parts ih =>
    cases parts with
    | nil => simp [joined]
    | cons r parts =>
      have hrest := ih (List.cons_ne_nil r parts)
      unfold joined at hrest ⊢
      rw [List.cons_append, List.cons_append, List.intercalate_cons_cons, ← List.cons_append, hrest,
        List.intercalate_cons_cons]
      simp only [List.append_assoc]

theorem not_mem_of_mem_pieces {s : List Char} (h : p ∈ pieces c s) : c ∉ p := by
  induction s generalizing p with
  | nil =>
    have hp : p = [] := List.mem_singleton.1 h
    rw [hp]
    exact List.not_mem_nil
  | cons x rest ih =>
    rw [pieces] at h
    split at h
    · rcases List.mem_cons.1 h with rfl | h
      · exact List.not_mem_nil
      · exact ih h
    · rename_i hx
      have hne := pieces_ne_nil c rest
      cases hp : pieces c rest with
      | nil => exact absurd hp hne
      | cons q qs =>
        rw [hp] at h ih
        rcases List.mem_cons.1 h with rfl | h
        · intro hc
          rcases List.mem_cons.1 hc with rfl | hc
          · exact hx rfl
          · exact ih List.mem_cons_self hc
        · exact ih (List.mem_cons_of_mem q h)

/-- **A text without the mark that stands behind one is the last part.** -/
theorem pieces_append {s : List Char} (h : c ∉ p) : pieces c (s ++ c :: p) = pieces c s ++ [p] := by
  have hjoined : joined c (pieces c s ++ [p]) = s ++ c :: p := by
    rw [joined_concat (pieces_ne_nil c s), joined_pieces]
  rw [← hjoined]
  refine pieces_joined (by simp) fun q hq => ?_
  rcases List.mem_append.1 hq with hq | hq
  · exact not_mem_of_mem_pieces hq
  · rw [List.mem_singleton.1 hq]
    exact h

end ReleaseCatalog.Text
