/-!
# Searching a text

`leftmost find s` tries a reader at every place of a text, from the front on,
and gives what it finds first. `contains` is the search for a fixed text.
-/

namespace ReleaseCatalog.Text

/-- What a reader finds at the first place of a text at which it finds
something. The end of the text is a place, too. -/
def leftmost (find : List Char → Option α) : List Char → Option α
  | [] => find []
  | c :: rest =>
    match find (c :: rest) with
    | some found => some found
    | none => leftmost find rest

/-- The text starts with another one: what follows that. -/
def after? : List Char → List Char → Option (List Char)
  | [], s => some s
  | _ :: _, [] => none
  | p :: ps, c :: rest => if p = c then after? ps rest else none

/-- The text has the other one in it. -/
def contains (part s : List Char) : Bool := (leftmost (after? part) s).isSome

theorem after?_eq_some_iff {p s rest : List Char} : after? p s = some rest ↔ s = p ++ rest := by
  induction p generalizing s with
  | nil => simp [after?, eq_comm]
  | cons c ps ih =>
    cases s with
    | nil => simp [after?]
    | cons x xs =>
      by_cases h : c = x
      · simp [after?, h, ih]
      · simp [after?, h, Ne.symm h]

theorem leftmost_eq_none_iff {find : List Char → Option α} {s : List Char} :
    leftmost find s = none ↔ ∀ t, t <:+ s → find t = none := by
  induction s with
  | nil => simp [leftmost]
  | cons c rest ih =>
    unfold leftmost
    cases h : find (c :: rest) with
    | some found =>
      simp only [reduceCtorEq, false_iff]
      exact fun hall => absurd (hall _ (List.suffix_refl _)) (by simp [h])
    | none =>
      simp only [ih]
      constructor
      · intro hall t ht
        rcases List.suffix_cons_iff.1 ht with rfl | ht
        · exact h
        · exact hall t ht
      · exact fun hall t ht => hall t (ht.trans (List.suffix_cons _ _))

end ReleaseCatalog.Text
