import Mathlib.Data.List.Basic
import ReleaseCatalog.Disk.Tree
import ReleaseCatalog.Proofs.Sequence

/-!
# Paths on a changing disk

The place that a path names depends only on which places are directories. So it
stays the same for as long as directories are kept:

* `Disk.node?_put` and `Disk.node?_erase`: a change of one place leaves all
  others alone.
* `Disk.KeepsDirectories` and `Disk.SameDirectories`: another disk has the
  directories of a disk, and perhaps more, or no others.
* `Disk.locate_kept`, `Disk.locateLast_kept`, `Disk.isDirectory_kept`: then
  paths lead where they led before.
* `Disk.locate_eq_of_locateLast`: reading goes where renaming and making a
  directory put things.
-/

namespace ReleaseCatalog

open Text

/-- A text is empty or ends in the mark if its last part is empty. -/
theorem getLast?_of_pieces {c : Char} {s : List Char} (h : (pieces c s).getLast? = some []) :
    s = [] ∨ s.getLast? = some c := by
  induction s with
  | nil => exact .inl rfl
  | cons x rest ih =>
    refine .inr ?_
    have hne := pieces_ne_nil c rest
    have hcons : ∀ y, rest = [] ∨ rest.getLast? = some c → rest ≠ [] →
        (y :: rest).getLast? = some c := by
      intro y h hr
      obtain ⟨z, zs, rfl⟩ := List.exists_cons_of_ne_nil hr
      exact h.resolve_left hr
    -- a mark opens a new part; any other character goes to the first part, which is
    -- the last one only if no mark follows
    unfold pieces at h
    split at h
    · rename_i hx
      obtain ⟨p, ps, hp⟩ := List.exists_cons_of_ne_nil hne
      rw [hp, List.getLast?_cons_cons, ← hp] at h
      by_cases hr : rest = []
      · simp [hr, hx]
      · exact hcons x (ih h) hr
    · split at h
      · simp at h
      · rename_i p ps hp
        cases ps with
        | nil => simp at h
        | cons q qs =>
          rw [List.getLast?_cons_cons] at h
          have hr : rest ≠ [] := by
            rintro rfl
            simp [pieces] at hp
          exact hcons x (ih (by rw [hp, List.getLast?_cons_cons]; exact h)) hr

namespace Disk

variable {d d' : Disk} {p q place above : Place} {n : Node} {path : Path} {parts : List (List Char)}

theorem lookup_filter_ne (nodes : List (Place × Node)) (p q : Place) :
    (nodes.filter (·.1 ≠ p)).lookup q = if q = p then none else nodes.lookup q := by
  induction nodes with
  | nil => simp
  | cons e rest ih =>
    by_cases he : e.1 = p
    · rw [List.filter_cons_of_neg (by simpa using he), ih, List.lookup_cons]
      by_cases hq : q = p
      · simp [hq]
      · have hqe : (q == e.1) = false := by
          rw [he]
          exact beq_eq_false_iff_ne.2 hq
        simp [hq, hqe]
    · rw [List.filter_cons_of_pos (by simpa using he), List.lookup_cons, ih, List.lookup_cons]
      by_cases hq : q = p
      · subst hq
        have hqe : (q == e.1) = false := beq_eq_false_iff_ne.2 (Ne.symm he)
        simp [hqe]
      · simp [hq]

theorem node?_erase :
    (d.erase p).node? q = if q = [] then d.node? q else if q = p then none else d.node? q := by
  unfold node? erase
  split
  · rfl
  · exact lookup_filter_ne ..

theorem node?_put :
    (d.put p n).node? q = if q = [] then d.node? q else if q = p then some n else d.node? q := by
  have herase := node?_erase (d := d) (p := p) (q := q)
  unfold node? put at *
  split at herase
  · simp [*]
  · rename_i hq
    simp only [hq, if_false, List.lookup_cons] at herase ⊢
    by_cases hp : q = p
    · simp [hp]
    · rw [beq_eq_false_iff_ne.2 hp, herase]
      simp [hp]

/-- There is a directory at the place. -/
def HasDirectory (d : Disk) (place : Place) : Prop := ∃ mode, d.node? place = some (.directory mode)

theorem hasDirectory_root (d : Disk) : d.HasDirectory [] := ⟨_, rfl⟩

/-- What is at no directory is not the root. -/
theorem node?_put_self (h : ¬ d.HasDirectory p) : (d.put p n).node? p = some n := by
  have hp : p ≠ [] := fun h' => h (h' ▸ d.hasDirectory_root)
  simp [node?_put, hp]

/-- Every directory of the disk is one on the other disk. -/
def KeepsDirectories (d d' : Disk) : Prop := ∀ place, d.HasDirectory place → d'.HasDirectory place

theorem KeepsDirectories.refl (d : Disk) : KeepsDirectories d d := fun _ h => h

theorem KeepsDirectories.trans {d'' : Disk} (h : KeepsDirectories d d')
    (h' : KeepsDirectories d' d'') :
    KeepsDirectories d d'' := fun place hd => h' place (h place hd)

theorem keepsDirectories_put (h : ¬ d.HasDirectory p) : KeepsDirectories d (d.put p n) := by
  rintro q ⟨mode, hq⟩
  have hne : q ≠ p := by
    rintro rfl
    exact h ⟨mode, hq⟩
  exact ⟨mode, by simpa [node?_put, hne] using hq⟩

/-- The two disks have the same directories, though not the same files. -/
def SameDirectories (d d' : Disk) : Prop := ∀ place, d.HasDirectory place ↔ d'.HasDirectory place

theorem SameDirectories.keeps (h : SameDirectories d d') : KeepsDirectories d d' :=
  fun place => (h place).1

theorem SameDirectories.symm (h : SameDirectories d d') : SameDirectories d' d :=
  fun place => (h place).symm

theorem SameDirectories.trans {d'' : Disk} (h : SameDirectories d d')
    (h' : SameDirectories d' d'') :
    SameDirectories d d'' := fun place => (h place).trans (h' place)

theorem sameDirectories_put (bytes : List UInt8) (mode : Nat) (h : ¬ d.HasDirectory p) :
    SameDirectories d (d.put p (.file bytes mode)) := by
  refine fun q => ⟨keepsDirectories_put h q, ?_⟩
  rintro ⟨mode', hq⟩
  rw [node?_put] at hq
  split at hq
  · exact ⟨mode', hq⟩
  · split at hq
    · exact nomatch hq
    · exact ⟨mode', hq⟩

theorem sameDirectories_erase (h : ¬ d.HasDirectory p) : SameDirectories d (d.erase p) := by
  intro q
  have hne : q = p → ¬ d.HasDirectory q := fun he => he ▸ h
  unfold HasDirectory
  rw [node?_erase]
  split
  · rfl
  · split
    · exact iff_of_false (hne ‹_›) (fun ⟨_, hq⟩ => nomatch hq)
    · rfl

theorem not_hasDirectory_of_file {bytes : List UInt8} {mode : Nat}
    (h : d.node? p = some (.file bytes mode)) :
    ¬ d.HasDirectory p := by
  rintro ⟨mode', hm⟩
  rw [h] at hm
  exact nomatch hm

/-- Below a directory a path goes on by its first part. -/
theorem follow_cons {part : List Char} (h : d.HasDirectory place) :
    d.follow place (part :: parts) =
      if Path.isFiller part then d.follow place parts
      else if part = ['.', '.'] then d.follow place.dropLast parts
      else if longestName < (Utf8.encode part).length then .error .nameTooLong
      else d.follow (place ++ [String.ofList part]) parts := by
  obtain ⟨mode, hm⟩ := h
  rw [follow, hm]

theorem hasDirectory_of_follow_cons {part : List Char}
    (h : d.follow place (part :: parts) = .ok q) :
    d.HasDirectory place := by
  rw [follow] at h
  split at h
  · exact nomatch h
  · exact nomatch h
  · exact ⟨_, ‹_›⟩

theorem follow_append (d : Disk) (place : Place) (as bs : List (List Char)) :
    d.follow place (as ++ bs) = d.follow place as >>= fun q => d.follow q bs := by
  induction as generalizing place with
  | nil => rfl
  | cons part as ih =>
    rw [List.cons_append, follow, follow]
    split
    · rfl
    · rfl
    · repeat' split
      · exact ih _
      · exact ih _
      · rfl
      · exact ih _

theorem follow_fillers (h : d.HasDirectory place) (hp : ∀ part ∈ parts, part = []) :
    d.follow place parts = .ok place := by
  induction parts with
  | nil => rfl
  | cons part parts ih =>
    obtain ⟨rfl, hparts⟩ := List.forall_mem_cons.1 hp
    rw [follow_cons h]
    exact ih hparts

/-- **A path leads to the same place for as long as directories are kept.** -/
theorem follow_kept (hk : KeepsDirectories d d') (h : d.follow place parts = .ok q) :
    d'.follow place parts = .ok q := by
  induction parts generalizing place with
  | nil => exact h
  | cons part parts ih =>
    have hd := hasDirectory_of_follow_cons h
    -- the tests on a part are the same on both disks
    rw [follow_cons hd] at h
    rw [follow_cons (hk place hd)]
    repeat' split at h
    all_goals simp_all

theorem locate_kept (hk : KeepsDirectories d d') (h : d.locate path = .ok q) :
    d'.locate path = .ok q := by
  obtain ⟨parts, hp, hf⟩ := bind_ok_iff.1 h
  exact bind_ok_iff.2 ⟨parts, hp, follow_kept hk hf⟩

theorem locateLast_kept {last : List Char} (hk : KeepsDirectories d d')
    (h : d.locateLast path = .ok (above, last)) : d'.locateLast path = .ok (above, last) := by
  obtain ⟨parts, hp, h⟩ := bind_ok_iff.1 h
  obtain ⟨place, hf, h⟩ := bind_ok_iff.1 h
  exact bind_ok_iff.2 ⟨parts, hp, bind_ok_iff.2 ⟨place, follow_kept hk hf, h⟩⟩

theorem find_ok_iff : d.find path = .ok n ↔
    ∃ place, d.locate path = .ok place ∧ d.node? place = some n := by
  unfold find
  rw [bind_ok_iff]
  refine exists_congr fun place => and_congr_right fun _ => ?_
  cases d.node? place with
  | none => exact iff_of_false (fun h => nomatch h) (fun h => nomatch h)
  | some n' => simp [pure, Except.pure]

theorem read_ok_iff {bytes : List UInt8} :
    d.read path = .ok bytes ↔
      ∃ place mode, d.locate path = .ok place ∧ d.node? place = some (.file bytes mode) := by
  unfold read
  rw [bind_ok_iff]
  constructor
  · rintro ⟨n, hn, h⟩
    obtain ⟨place, hl, hp⟩ := find_ok_iff.1 hn
    cases n with
    | file before mode =>
      cases h
      exact ⟨place, mode, hl, hp⟩
    | directory mode => exact nomatch h
  · rintro ⟨place, mode, hl, hp⟩
    exact ⟨_, find_ok_iff.2 ⟨place, hl, hp⟩, rfl⟩

theorem exists?_of_read {bytes : List UInt8} (h : d.read path = .ok bytes) :
    d.exists? path = true := by
  obtain ⟨n, hn, _⟩ := bind_ok_iff.1 h
  unfold exists?
  rw [hn]
  rfl

theorem isDirectory_iff :
    d.isDirectory path = true ↔ ∃ place, d.locate path = .ok place ∧ d.HasDirectory place := by
  unfold isDirectory HasDirectory
  constructor
  · intro h
    split at h
    · rename_i mode hf
      obtain ⟨place, hl, hp⟩ := find_ok_iff.1 hf
      exact ⟨place, hl, mode, hp⟩
    · exact nomatch h
  · rintro ⟨place, hl, mode, hp⟩
    rw [find_ok_iff.2 ⟨place, hl, hp⟩]

theorem isDirectory_kept (hk : KeepsDirectories d d') (h : d.isDirectory path = true) :
    d'.isDirectory path = true := by
  obtain ⟨place, hl, hd⟩ := isDirectory_iff.1 h
  exact isDirectory_iff.2 ⟨place, locate_kept hk hl, hk place hd⟩

theorem partsOf_ok (h : partsOf path = .ok parts) :
    path.text ≠ "" ∧ parts = pieces '/' path.text.toList := by
  unfold partsOf at h
  repeat' split at h
  · exact nomatch h
  · exact nomatch h
  · exact nomatch h
  · exact ⟨‹_›, (Except.ok.inj h).symm⟩

/-- Only a path that ends in a slash has an empty last part. -/
theorem endsInSlash_of_parts {part : List Char} (h : partsOf path = .ok (parts ++ [part]))
    (hp : part = []) :
    path.endsInSlash = true := by
  obtain ⟨hne, hparts⟩ := partsOf_ok h
  have hlast : (pieces '/' path.text.toList).getLast? = some [] := by
    rw [← hparts, hp, List.getLast?_concat]
  rcases getLast?_of_pieces hlast with h | h
  · exact absurd (String.toList_eq_nil_iff.1 h) hne
  · simp [Path.endsInSlash, h]

theorem exists_fillers (all : List (List Char)) :
    ∃ fillers : List (List Char), (∀ part ∈ fillers, part = []) ∧
      all = (all.reverse.dropWhile (· = [])).reverse ++ fillers := by
  refine ⟨(all.reverse.takeWhile (· = [])).reverse, ?_, ?_⟩
  · intro part hp
    have hall : ((all.reverse.takeWhile (· = [])).all (· = [])) = true := List.all_takeWhile
    exact of_decide_eq_true (List.all_eq_true.1 hall part (List.mem_reverse.1 hp))
  · rw [← List.reverse_append, List.takeWhile_append_dropWhile, List.reverse_reverse]

/-- The directory that a path leads to is there, and the path itself goes on
from it by its last part, up to slashes at the end. -/
theorem locate_eq_of_locateLast {last : List Char} (h : d.locateLast path = .ok (above, last)) :
    d.HasDirectory above ∧
      (last ≠ [] → ∃ fillers, (∀ part ∈ fillers, part = []) ∧
        (path.endsInSlash = false → fillers = []) ∧
        d.locate path = d.follow above [last] >>= fun place => d.follow place fillers) := by
  obtain ⟨all, hall, h⟩ := bind_ok_iff.1 h
  obtain ⟨place, hf, h⟩ := bind_ok_iff.1 h
  -- the path is `front` and then slashes; `front` ends in `last`, and all before that
  -- is followed
  obtain ⟨fillers, hempty, hsplit⟩ := exists_fillers all
  generalize (all.reverse.dropWhile (· = [])).reverse = front at hsplit hf h
  obtain ⟨rfl, hlast⟩ : place = above ∧ front.getLast?.getD [] = last := by
    simpa [pure, Except.pure] using h
  rw [follow_append, bind_ok_iff] at hf
  obtain ⟨q, hq, hf⟩ := hf
  have hd := hasDirectory_of_follow_cons hf
  -- the parent of a path is followed up to an empty part, which stays in the directory
  obtain rfl : q = place := by
    rw [follow_fillers hd (by simp)] at hf
    exact Except.ok.inj hf
  refine ⟨hd, fun hne => ⟨fillers, hempty, fun hslash => ?_, ?_⟩⟩
  · rcases List.eq_nil_or_concat' fillers with hnil | ⟨xs, x, hx⟩
    · exact hnil
    · rw [hsplit, hx, ← List.append_assoc] at hall
      have hx' : x = [] := hempty x (by rw [hx]; simp)
      rw [endsInSlash_of_parts hall hx'] at hslash
      exact nomatch hslash
  · have hlast' : front = front.dropLast ++ [last] := by
      rcases List.eq_nil_or_concat' front with hnil | ⟨xs, x, hx⟩
      · exact absurd (by rw [← hlast, hnil]; rfl) hne
      · rw [hx, List.getLast?_concat] at hlast
        rw [hx, List.dropLast_concat, ← hlast]
        rfl
    unfold locate
    rw [hall, hsplit, hlast', List.append_assoc]
    show d.follow [] (front.dropLast ++ ([last] ++ fillers)) = _
    rw [follow_append, hq]
    exact follow_append ..

end Disk

end ReleaseCatalog
