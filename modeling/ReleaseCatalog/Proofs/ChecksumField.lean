import ReleaseCatalog.Proofs.Checksum

/-!
# Where the checksum of a text is

A field may say more than a checksum, so the checksum is searched for. What is
found is the first place in the text at which a label, a colon and a digest
stand, and the digest is read to the next blank.

* `Checksum.ofText_ok_iff`: the checksum at the first place at which one starts.
* `Checksum.ofText_error_iff`: there is no such place, and the error has the
  whole text.
* `Checksum.ofText_text_iff`: which checksums are read back as they are written.
* `Checksum.ofText_leftmost`: all of this, for every text and every checksum.
-/

namespace ReleaseCatalog

open Text

/-- Every label is the one of its algorithm. -/
theorem Algorithm.ofLabel_label (a : Algorithm) : ofLabel a.label = .ok a := by
  cases a <;> rfl

namespace Checksum

variable {c : Checksum} {s : List Char} {text : String} {e : Error}

/-- A checksum starts at the front of the text: a label, a colon with blanks
around it or none, and a character that is no blank. -/
def Starts (s : List Char) : Prop :=
  ∃ (a : Algorithm) (left right : List Char) (x : Char) (rest : List Char),
    (∀ b ∈ left, isBlank b = true) ∧ (∀ b ∈ right, isBlank b = true) ∧ isBlank x = false ∧
      s = a.label.toList ++ (left ++ ([':'] ++ (right ++ x :: rest)))

theorem Heads.starts (h : c.Heads s) : Starts s := by
  obtain ⟨hne, hdigest, left, right, rest, hleft, hright, -, rfl⟩ := h
  obtain ⟨x, more, hx⟩ := List.exists_cons_of_ne_nil hne
  have hfirst : isBlank x = false := hdigest x (hx ▸ List.mem_cons_self)
  refine ⟨c.algorithm, left, right, x, more ++ rest, hleft, hright, hfirst, ?_⟩
  rw [hx]
  rfl

/-- Where a checksum starts there is one, with the digest up to the next blank. -/
theorem Starts.exists_heads (h : Starts s) : ∃ c : Checksum, c.Heads s := by
  obtain ⟨a, left, right, x, rest, hleft, hright, hx, rfl⟩ := h
  let digest := (x :: rest).takeWhile fun b => !isBlank b
  have hdigest : digest = x :: rest.takeWhile fun b => !isBlank b :=
    List.takeWhile_cons_of_pos (by rw [hx]; rfl)
  refine ⟨⟨a, String.ofList digest⟩, ?_⟩
  unfold Heads
  rw [String.toList_ofList]
  refine ⟨?_, fun b hb => ?_, left, right, (x :: rest).dropWhile fun b => !isBlank b, hleft, hright,
    fun b hb => ?_, ?_⟩
  · rw [hdigest]
    exact List.cons_ne_nil _ _
  · simpa using List.mem_takeWhile_imp hb
  · simpa using head?_dropWhile (fun b => !isBlank b) (x :: rest) b hb
  · rw [List.takeWhile_append_dropWhile]

theorem atFront?_eq_none_iff : atFront? s = none ↔ ¬ Starts s := by
  rw [Option.eq_none_iff_forall_not_mem]
  constructor
  · intro hnone hstarts
    obtain ⟨c, hc⟩ := hstarts.exists_heads
    exact hnone c (atFront?_eq_some_iff.2 hc)
  · intro hno c hc
    exact hno (atFront?_eq_some_iff.1 hc).starts

/-- **The checksum of a text is the one at the first place at which any starts.** -/
theorem ofText_ok_iff :
    ofText text = .ok c ↔
      ∃ front t, text.toList = front ++ t ∧ c.Heads t ∧
        ∀ u, u ≠ [] → u <:+ front → ¬ Starts (u ++ t) := by
  have hfound : ofText text = .ok c ↔ leftmost atFront? text.toList = some c := by
    unfold ofText
    cases leftmost atFront? text.toList with
    | some found => simp
    | none => simp
  rw [hfound, leftmost_eq_some_iff]
  simp only [atFront?_eq_some_iff, atFront?_eq_none_iff]

/-- **A text without a checksum is the error.** -/
theorem ofText_error_iff :
    ofText text = .error e ↔ (∀ t, t <:+ text.toList → ¬ Starts t) ∧ e = .checksumFormat text := by
  have hfound : ofText text = .error e ↔
      leftmost atFront? text.toList = none ∧ e = .checksumFormat text := by
    unfold ofText
    cases leftmost atFront? text.toList with
    | some found => simp
    | none => simp [eq_comm]
  rw [hfound, leftmost_eq_none_iff]
  simp only [atFront?_eq_none_iff]

/-- A text has a checksum exactly if one starts somewhere in it. -/
theorem ofText_isOk_iff : (∃ c, ofText text = .ok c) ↔ ∃ t, t <:+ text.toList ∧ Starts t := by
  constructor
  · rintro ⟨c, hc⟩
    obtain ⟨front, t, htext, hheads, -⟩ := ofText_ok_iff.1 hc
    exact ⟨t, ⟨front, htext.symm⟩, hheads.starts⟩
  · rintro ⟨t, ht, hstarts⟩
    cases hread : ofText text with
    | ok c => exact ⟨c, rfl⟩
    | error e => exact absurd hstarts ((ofText_error_iff.1 hread).1 t ht)

/-- **A checksum is read back as it is written exactly if it has a digest
without blanks.** What is read never has any other. -/
theorem ofText_text_iff :
    ofText c.text = .ok c ↔ c.digest ≠ "" ∧ ∀ x ∈ c.digest.toList, isBlank x = false := by
  constructor
  · intro h
    obtain ⟨-, -, -, ⟨hne, hblank, -⟩, -⟩ := ofText_ok_iff.1 h
    refine ⟨fun hempty => hne ?_, hblank⟩
    rw [hempty]
    rfl
  · rintro ⟨hne, hblank⟩
    exact ofText_text hne hblank

/-- **The checksum of a text is the leftmost one.** A text has a checksum exactly
if somewhere in it there stand a label, a colon with blanks around it or none,
and a character that is no blank. The checksum has the algorithm of the first
such place, and the digest goes from there to the next blank; every label is one
that can be read. A text that has no checksum is told in the error. A checksum
that was written is read back exactly if it has a digest without blanks. -/
theorem ofText_leftmost :
    (∀ text : String,
      ((∃ c, ofText text = .ok c) ↔ ∃ t, t <:+ text.toList ∧ Starts t) ∧
      (∀ c, ofText text = .ok c ↔
        ∃ front t, text.toList = front ++ t ∧ c.Heads t ∧
          ∀ u, u ≠ [] → u <:+ front → ¬ Starts (u ++ t)) ∧
      (∀ e, ofText text = .error e → e = .checksumFormat text)) ∧
    (∀ a : Algorithm, Algorithm.ofLabel a.label = .ok a) ∧
    ∀ c : Checksum, ofText c.text = .ok c ↔
      c.digest ≠ "" ∧ ∀ x ∈ c.digest.toList, isBlank x = false :=
  ⟨fun _ => ⟨ofText_isOk_iff, fun _ => ofText_ok_iff, fun _ h => (ofText_error_iff.1 h).2⟩,
    Algorithm.ofLabel_label, fun _ => ofText_text_iff⟩

/-- A label without a colon is passed over, and one behind a colon belongs to
the digest. -/
example : ofText "SHA1-MD5 :\tSHA256:ab cd" = .ok ⟨.md5, "SHA256:ab"⟩ := by
  decide +kernel

end Checksum

end ReleaseCatalog
