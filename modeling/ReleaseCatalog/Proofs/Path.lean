import Mathlib.Data.List.DropRight
import ReleaseCatalog.Path
import ReleaseCatalog.Proofs.Text.Split

/-!
# Paths with another ending

A path whose last part is a name keeps all parts but that one when its ending is
changed (`Path.pieces_withEnding`), and an ending of several words makes another name
of it (`Path.renamed_ne`). So the path with the ending stands beside the path without.
-/

namespace ReleaseCatalog.Path

open Text

variable {p : Path} {part : List Char} {front : List (List Char)} {ending : String}

/-- Nothing is left out behind a part that says something. -/
theorem withoutFillers_concat (absolute : Bool) (h : isFiller part = false) :
    withoutFillers absolute (front ++ [part]) = front ++ [part] := by
  have hkept : ((front ++ [part]).reverse.dropWhile isFiller).reverse = front ++ [part] := by
    rw [List.reverse_append, List.reverse_singleton, List.singleton_append,
      List.dropWhile_cons_of_neg (by simp [h]), List.reverse_cons, List.reverse_reverse]
  unfold withoutFillers
  rw [hkept]
  split
  · exact absurd ‹_› (by simp)
  · rfl

/-- The empty part in front of the slash that an absolute path starts with. -/
def rootParts (p : Path) : List (List Char) := if p.isAbsolute then [[]] else []

/-- The text of a path whose last part says something is the root and the parts. -/
theorem parts_of_pieces (h : pieces '/' p.text.toList = front ++ [part])
    (hpart : isFiller part = false) :
    ∃ above, front = p.rootParts ++ above ∧ p.parts = above ++ [part] := by
  unfold parts rootParts
  by_cases habs : p.isAbsolute = true
  · simp only [habs, if_true]
    obtain ⟨rest, hrest⟩ := List.head?_eq_some_iff.1 (of_decide_eq_true habs)
    rw [hrest, pieces, if_pos rfl] at h ⊢
    -- there is a part behind the root, so the last part is not that of the root
    obtain ⟨above, last, hlast⟩ :=
      List.eq_nil_or_concat' (pieces '/' rest) |>.resolve_left (pieces_ne_nil '/' rest)
    rw [hlast, ← List.cons_append] at h
    obtain ⟨rfl, hpart'⟩ := List.append_inj' h rfl
    obtain rfl := List.singleton_inj.1 hpart'
    refine ⟨above, rfl, ?_⟩
    rw [List.tail_cons, hlast]
    exact withoutFillers_concat true hpart
  · rw [Bool.not_eq_true] at habs
    rw [habs, h]
    exact ⟨front, rfl, withoutFillers_concat false hpart⟩

theorem fileName?_of_parts {above : List (List Char)} (h : p.parts = above ++ [part])
    (hpart : isFiller part = false)
    (hup : part ≠ ['.', '.']) : p.fileName? = some (String.ofList part) := by
  have hdot : part ≠ ['.'] := by
    rintro rfl
    exact nomatch hpart
  unfold fileName?
  rw [h, List.getLast?_concat]
  exact if_neg (not_or.2 ⟨hdot, hup⟩)

/-- The last part of what is kept of a path says something, or is the dot of a
relative path. -/
theorem getLast?_withoutFillers {absolute : Bool} {parts : List (List Char)}
    (h : (withoutFillers absolute parts).getLast? = some part) : part ≠ [] := by
  rintro rfl
  unfold withoutFillers at h
  split at h
  · split at h <;> exact nomatch h
  · obtain ⟨hne, hlast⟩ := List.mem_getLast?_eq_getLast h
    refine List.rdropWhile_last_not isFiller parts hne ?_
    unfold List.rdropWhile
    rw [← hlast]
    rfl

/-- **A file name is never empty.** -/
theorem fileName?_ne_empty {name : String} (h : p.fileName? = some name) : name ≠ "" := by
  rintro rfl
  unfold fileName? at h
  split at h
  · rename_i part hlast
    split at h
    · exact nomatch h
    · have hempty : part = [] := by simpa using congrArg String.toList (Option.some.inj h)
      exact getLast?_withoutFillers hlast hempty
  · exact nomatch h

/-- The last part of a path with the ending changed. -/
def renamed (p : Path) (name ending : String) : List Char :=
  if p.endsUpwards name then ['.', '.'] else (stem name).toList ++ '.' :: ending.toList

/-- A name is its stem, or the stem with a last word behind it. -/
theorem stem_cases (name : String) :
    stem name = name ∨ ∃ word, '.' ∉ word ∧ name.toList = (stem name).toList ++ '.' :: word := by
  unfold stem
  have hne := pieces_ne_nil '.' name.toList
  obtain ⟨front, word, hp⟩ := List.eq_nil_or_concat' (pieces '.' name.toList) |>.resolve_left hne
  have hjoined := joined_pieces '.' name.toList
  simp only [hp, List.dropLast_concat] at hjoined ⊢
  split
  · exact .inl rfl
  · rename_i hfront
    have hfront' : front ≠ [] := by
      rintro rfl
      exact hfront rfl
    rw [joined_concat hfront'] at hjoined
    rw [String.toList_ofList]
    exact .inr ⟨word, not_mem_of_mem_pieces (s := name.toList) (by simp [hp]), hjoined.symm⟩

/-- **An ending of several words makes another name.** -/
theorem renamed_ne (p : Path) {name : String} (hup : name.toList ≠ ['.', '.'])
    (hwords : '.' ∈ ending.toList) :
    p.renamed name ending ≠ name.toList := by
  unfold renamed
  split
  · exact hup.symm
  · intro heq
    rcases stem_cases name with hstem | ⟨word, hword, hname⟩
    · rw [hstem] at heq
      have hlength := congrArg List.length heq
      simp at hlength
    · -- the stem is the same on both sides, so the ending would be the last word
      rw [hname] at heq
      have htail := List.append_cancel_left heq
      exact hword ((List.cons.inj htail).2 ▸ hwords)

theorem slash_not_mem_renamed (p : Path) {name : String} (hname : '/' ∉ name.toList)
    (hending : '/' ∉ ending.toList) : '/' ∉ p.renamed name ending := by
  unfold renamed
  split
  · decide
  · rw [List.mem_append, List.mem_cons, not_or, not_or]
    refine ⟨fun hstem => ?_, by decide, hending⟩
    rcases stem_cases name with h | ⟨word, -, h⟩
    · exact hname (h ▸ hstem)
    · exact hname (h ▸ List.mem_append_left _ hstem)

/-- **A path with its ending changed keeps all parts but the last.** -/
theorem pieces_withEnding (h : pieces '/' p.text.toList = front ++ [part])
    (hpart : isFiller part = false) (hup : part ≠ ['.', '.']) (hending : '/' ∉ ending.toList) :
    pieces '/' (p.withEnding ending).text.toList =
      front ++ [p.renamed (String.ofList part) ending] := by
  obtain ⟨above, hfront, hparts⟩ := parts_of_pieces h hpart
  have hslash : ∀ q ∈ front ++ [part], '/' ∉ q := fun q hq => not_mem_of_mem_pieces (h ▸ hq)
  have hnoslash : ∀ q ∈ above ++ [p.renamed (String.ofList part) ending], '/' ∉ q := by
    intro q hq
    rcases List.mem_append.1 hq with hq | hq
    · exact hslash q (by simp [hfront, hq])
    · rw [List.mem_singleton.1 hq]
      exact slash_not_mem_renamed p (by simpa using hslash part (by simp)) hending
  have hjoined := pieces_joined (by simp) hnoslash
  unfold withEnding
  rw [fileName?_of_parts hparts hpart hup, hparts, List.dropLast_concat, hfront]
  show pieces '/' (ofParts p.isAbsolute
      (above ++ [p.renamed (String.ofList part) ending])).text.toList = _
  unfold ofParts rootParts
  rw [String.toList_ofList]
  by_cases habs : p.isAbsolute = true
  · rw [habs, if_pos rfl, if_pos rfl, List.singleton_append, pieces, if_pos rfl, hjoined]
    rfl
  · rw [Bool.not_eq_true] at habs
    rw [habs, if_neg Bool.false_ne_true, if_neg Bool.false_ne_true, List.nil_append, hjoined]
    rfl

end ReleaseCatalog.Path
