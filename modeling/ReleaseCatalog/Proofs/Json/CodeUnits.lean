import ReleaseCatalog.Json.Token
import ReleaseCatalog.Proofs.Json.Grammar

/-!
# Texts and their code units

A string literal writes characters and single code units side by side. It is a
text if all its code units together are those of a text, wherever the literal
has written them from.

* `codeUnits_append_inj`: the first character can be told from the code units of
  a text.
* `partsText?_eq_some_iff`: the reader makes exactly this text of the parts of a
  literal.
-/

namespace ReleaseCatalog.Json

theorem not_surrogate (c : Char) : c.toNat < 0xD800 ∨ 0xDFFF < c.toNat ∧ c.toNat < 0x110000 :=
  c.valid

theorem codeUnits_of_lt {c : Char} (h : c.toNat < 0x10000) : codeUnits c = [c.toNat] := if_pos h

theorem codeUnits_of_le {c : Char} (h : 0x10000 ≤ c.toNat) :
    codeUnits c = [0xD800 + (c.toNat - 0x10000) / 0x400, 0xDC00 + (c.toNat - 0x10000) % 0x400] :=
  if_neg (by omega)

theorem codeUnits_ne_nil (c : Char) : codeUnits c ≠ [] := by
  unfold codeUnits
  split <;> exact List.cons_ne_nil _ _

/-- **The first character can be told from the code units.** -/
theorem codeUnits_append_inj {c d : Char} {x y : List Nat}
    (h : codeUnits c ++ x = codeUnits d ++ y) :
    c = d ∧ x = y := by
  have hc := not_surrogate c
  have hd := not_surrogate d
  rcases Nat.lt_or_ge c.toNat 0x10000 with hc' | hc' <;>
    rcases Nat.lt_or_ge d.toNat 0x10000 with hd' | hd'
  · rw [codeUnits_of_lt hc', codeUnits_of_lt hd'] at h
    obtain ⟨hnum, hrest⟩ := List.cons.inj h
    exact ⟨Char.toNat_inj.1 hnum, hrest⟩
  · -- the first unit of a pair is a surrogate, which is no character
    rw [codeUnits_of_lt hc', codeUnits_of_le hd'] at h
    have hhead := (List.cons.inj h).1
    omega
  · rw [codeUnits_of_le hc', codeUnits_of_lt hd'] at h
    have hhead := (List.cons.inj h).1
    omega
  · rw [codeUnits_of_le hc', codeUnits_of_le hd'] at h
    obtain ⟨hhigh, htail⟩ := List.cons.inj h
    obtain ⟨hlow, hrest⟩ := List.cons.inj htail
    exact ⟨Char.toNat_inj.1 (by omega), hrest⟩

theorem codeUnits_append_eq_iff {c : Char} {x : List Nat} {t : List Char} :
    codeUnits c ++ x = t.flatMap codeUnits ↔ ∃ t', x = t'.flatMap codeUnits ∧ c :: t' = t := by
  constructor
  · intro h
    cases t with
    | nil => exact absurd (List.append_eq_nil_iff.1 h).1 (codeUnits_ne_nil c)
    | cons d t =>
      obtain ⟨rfl, hrest⟩ := codeUnits_append_inj h
      exact ⟨t, hrest, rfl⟩
  · rintro ⟨t', rfl, rfl⟩
    rfl

/-- Texts with the same code units are the same. -/
theorem flatMap_codeUnits_inj {t u : List Char} (h : t.flatMap codeUnits = u.flatMap codeUnits) :
    t = u := by
  induction t generalizing u with
  | nil =>
    cases u with
    | nil => rfl
    | cons d u => exact absurd (List.append_eq_nil_iff.1 h.symm).1 (codeUnits_ne_nil d)
  | cons c t ih =>
    obtain ⟨u', hrest, rfl⟩ := codeUnits_append_eq_iff.1 h
    rw [ih hrest]

theorem toNat_ofNat {n : Nat} (h : n < 0xD800 ∨ 0xDFFF < n ∧ n < 0x110000) :
    (Char.ofNat n).toNat = n := by
  have hvalid : n.isValidChar := h
  unfold Char.ofNat
  rw [dif_pos hvalid]
  rfl

/-- A number that is no surrogate is the one code unit of its character. -/
theorem codeUnits_ofNat {n : Nat} (hn : n < 0x10000) (h : n < 0xD800 ∨ 0xDFFF < n) :
    codeUnits (Char.ofNat n) = [n] := by
  have hnum : (Char.ofNat n).toNat = n := toNat_ofNat (by omega)
  rw [codeUnits_of_lt (hnum.symm ▸ hn), hnum]

/-- Two surrogates in their order are the code units of a character. -/
theorem codeUnits_ofNat_pair {n m : Nat} (hn : 0xD800 ≤ n) (hn' : n < 0xDC00) (hm : 0xDC00 ≤ m)
    (hm' : m ≤ 0xDFFF) :
    codeUnits (Char.ofNat (0x10000 + 1024 * (n - 0xD800) + (m - 0xDC00))) = [n, m] := by
  have hnum := toNat_ofNat (n := 0x10000 + 1024 * (n - 0xD800) + (m - 0xDC00)) (by omega)
  rw [codeUnits_of_le (by omega), hnum, List.cons.injEq, List.cons.injEq]
  exact ⟨by omega, by omega, rfl⟩

/-- A text starts with a surrogate only as the first half of a pair. -/
theorem pair_of_flatMap_codeUnits {n : Nat} {x : List Nat} {t : List Char}
    (h : n :: x = t.flatMap codeUnits) (hn : 0xD800 ≤ n ∧ n ≤ 0xDFFF) :
    n < 0xDC00 ∧ ∃ m y, x = m :: y ∧ 0xDC00 ≤ m ∧ m ≤ 0xDFFF := by
  cases t with
  | nil => exact nomatch h
  | cons c t =>
    have hc := not_surrogate c
    rw [List.flatMap_cons] at h
    rcases Nat.lt_or_ge c.toNat 0x10000 with hc' | hc'
    · rw [codeUnits_of_lt hc'] at h
      have hhead := (List.cons.inj h).1
      omega
    · rw [codeUnits_of_le hc'] at h
      obtain ⟨hhead, htail⟩ := List.cons.inj h
      exact ⟨by omega, _, _, htail, by omega, by omega⟩

/-- No character starts with the second half of a pair. -/
theorem not_low_of_codeUnits {c : Char} {m : Nat} {x y : List Nat} (h : codeUnits c ++ x = m :: y) :
    m < 0xDC00 ∨ 0xDFFF < m := by
  have hc := not_surrogate c
  rcases Nat.lt_or_ge c.toNat 0x10000 with hc' | hc'
  · rw [codeUnits_of_lt hc'] at h
    have hhead := (List.cons.inj h).1
    omega
  · rw [codeUnits_of_le hc'] at h
    have hhead := (List.cons.inj h).1
    omega

/-! ## The parts of a literal -/

/-- The code units that a part of a string literal writes. -/
def Part.units : Part → List Nat
  | .char c => codeUnits c
  | .unit n => [n]
  | .stray => []

/-- The part is one that a character or an escape writes. -/
def Part.Written : Part → Prop
  | .char _ => True
  | .unit n => n < 0x10000
  | .stray => False

/-- A character in front of a text that is read rightly. -/
theorem map_cons_eq_some_iff {c : Char} {read : Option (List Char)} {x : List Nat}
    (h : ∀ t, read = some t ↔ x = t.flatMap codeUnits) (t : List Char) :
    read.map (c :: ·) = some t ↔ codeUnits c ++ x = t.flatMap codeUnits := by
  rw [codeUnits_append_eq_iff, Option.map_eq_some_iff]
  simp only [h]

/-- **The parts of a string literal are read as the text with their code
units**, if there is one. -/
theorem partsText?_eq_some_iff {parts : List Part} (h : ∀ p ∈ parts, p.Written) (t : List Char) :
    partsText? parts = some t ↔ parts.flatMap Part.units = t.flatMap codeUnits := by
  fun_induction partsText? parts generalizing t with
  | case1 =>
    cases t with
    | nil => simp
    | cons c t => simp [codeUnits_ne_nil]
  | case2 c rest ih => exact map_cons_eq_some_iff (ih (List.forall_mem_cons.1 h).2) t
  | case3 rest => exact absurd (h _ List.mem_cons_self) id
  | case4 n rest hn ih =>
    obtain ⟨hwritten, hrest⟩ := List.forall_mem_cons.1 h
    have hunits := codeUnits_ofNat hwritten hn
    rw [map_cons_eq_some_iff (ih hrest), hunits]
    rfl
  | case5 n hn m rest hpair ih =>
    obtain ⟨-, -, hrest⟩ := (List.forall_mem_cons.1 h).imp_right List.forall_mem_cons.1
    have hunits := codeUnits_ofNat_pair (n := n) (m := m) (by omega) hpair.1 hpair.2.1 hpair.2.2
    rw [map_cons_eq_some_iff (ih hrest), hunits]
    rfl
  | case6 n hn m rest hpair =>
    -- a surrogate that is not the first of a pair is in no text
    refine iff_of_false nofun fun heq => ?_
    obtain ⟨hhigh, m', y, htail, hlow⟩ := pair_of_flatMap_codeUnits heq (by omega)
    obtain ⟨rfl, -⟩ := List.cons.inj htail
    exact hpair ⟨hhigh, hlow⟩
  | case7 n rest hn hnone =>
    refine iff_of_false nofun fun heq => ?_
    obtain ⟨-, m, y, htail, hlow⟩ := pair_of_flatMap_codeUnits heq (by omega)
    cases rest with
    | nil => exact nomatch htail
    | cons p rest =>
      cases p with
      | char c =>
        have hnot := not_low_of_codeUnits htail
        omega
      | unit m' => exact hnone m' rest rfl
      | stray => exact h .stray (by simp)

end ReleaseCatalog.Json
