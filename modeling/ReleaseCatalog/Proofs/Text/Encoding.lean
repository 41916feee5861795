import ReleaseCatalog.Text.Utf8

/-!
# Reading back what was encoded

* `first?_encode`: the bytes of a character, whatever follows them, start with
  that character.
* `symbols_encode`: the bytes of a text are read as its characters, none of them
  stray.
* `encode_lt`: the bytes of ASCII texts are in the order of the texts.
-/

namespace ReleaseCatalog.Text.Utf8

/-- **The first character is found.** -/
theorem first?_encode (c : Char) (rest : List UInt8) :
    first? (String.utf8EncodeChar c ++ rest) = some c := by
  have hlen : (String.utf8EncodeChar c).length ≤ 4 := by
    rw [String.length_utf8EncodeChar]; exact c.utf8Size_le_four
  unfold first?
  rw [List.take_append, List.take_of_length_le hlen, List.toByteArray_append]
  exact ByteArray.utf8DecodeChar?_utf8EncodeChar_append

theorem toNat_byte {c : Char} (h : c.utf8Size = 1) :
    c.val.toUInt8.toNat = c.toNat ∧ c.toNat < 0x80 := by
  have hc : c.toNat ≤ 0x7F := by
    have := Char.utf8Size_eq_one_iff.1 h
    rwa [UInt32.le_iff_toNat_le] at this
  refine ⟨?_, by omega⟩
  rw [UInt32.toNat_toUInt8]
  exact Nat.mod_eq_of_lt (by show c.toNat < 2 ^ 8; omega)

/-- A character of one byte is the number of that byte. -/
theorem encodeChar_single {c : Char} (h : c.utf8Size = 1) :
    String.utf8EncodeChar c = [c.val.toUInt8] ∧ c.val.toUInt8 < 0x80 ∧
      Char.ofNat c.val.toUInt8.toNat = c := by
  obtain ⟨hb, hlt⟩ := toNat_byte h
  refine ⟨String.utf8EncodeChar_eq_singleton h, ?_, ?_⟩
  · rw [UInt8.lt_iff_toNat_lt, hb]; exact hlt
  · rw [hb]; exact Char.ofNat_toNat c

/-- The first byte of a longer character is none of the ASCII ones. -/
theorem encodeChar_lead {c : Char} (h : c.utf8Size ≠ 1) :
    ∃ b tail, String.utf8EncodeChar c = b :: tail ∧ ¬ b < 0x80 := by
  have hor : ∀ x m : UInt8, 0x80 ≤ m.toNat → ¬ x ||| m < 0x80 := by
    intro x m hm hlt
    rw [UInt8.lt_iff_toNat_lt, UInt8.toNat_or] at hlt
    have := Nat.right_le_or (n := x.toNat) (m := m.toNat)
    have : (0x80 : UInt8).toNat = 0x80 := rfl
    omega
  have hpos := c.utf8Size_pos
  have hle := c.utf8Size_le_four
  rcases (by omega : c.utf8Size = 2 ∨ c.utf8Size = 3 ∨ c.utf8Size = 4) with h2 | h3 | h4
  · exact ⟨_, _, String.utf8EncodeChar_eq_cons_cons h2, hor _ _ (by decide)⟩
  · exact ⟨_, _, String.utf8EncodeChar_eq_cons_cons_cons h3, hor _ _ (by decide)⟩
  · exact ⟨_, _, String.utf8EncodeChar_eq_cons_cons_cons_cons h4, hor _ _ (by decide)⟩

theorem symbols_encodeChar (c : Char) (rest : List UInt8) :
    symbols (String.utf8EncodeChar c ++ rest) = some c :: symbols rest := by
  by_cases h : c.utf8Size = 1
  · obtain ⟨hb, hlt, hc⟩ := encodeChar_single h
    rw [hb, List.singleton_append, symbols, if_pos hlt, hc]
  · obtain ⟨b, tail, hb, hge⟩ := encodeChar_lead h
    have hfirst := first?_encode c rest
    have hlen := String.length_utf8EncodeChar c
    rw [hb] at hfirst hlen
    rw [hb, List.cons_append, symbols, if_neg hge, ← List.cons_append, hfirst]
    have htail : (tail ++ rest).drop (c.utf8Size - 1) = rest := by
      rw [← hlen, List.length_cons, Nat.add_sub_cancel, List.drop_left]
    simp only [htail]

/-- **Reading what was encoded.** -/
theorem symbols_encode (s : List Char) : symbols (encode s) = s.map some := by
  induction s with
  | nil => simp [encode, symbols]
  | cons c s ih =>
    have hcons : encode (c :: s) = String.utf8EncodeChar c ++ encode s := rfl
    rw [hcons, symbols_encodeChar, ih, List.map_cons]

/-- **Texts of ASCII characters are ordered as their bytes are.** -/
theorem encode_lt {s t : List Char} (hs : ∀ c ∈ s, c.utf8Size = 1) (ht : ∀ c ∈ t, c.utf8Size = 1)
    (h : s < t) :
    encode s < encode t := by
  induction s generalizing t with
  | nil =>
    cases t with
    | nil => exact absurd h (List.lt_irrefl _)
    | cons d t =>
      show [] < String.utf8EncodeChar d ++ encode t
      rw [String.utf8EncodeChar_eq_singleton (ht d List.mem_cons_self)]
      exact List.nil_lt_cons _ _
  | cons c s ih =>
    cases t with
    | nil => exact absurd h (List.not_lt_nil _)
    | cons d t =>
      have hc := String.utf8EncodeChar_eq_singleton (hs c List.mem_cons_self)
      have hd := String.utf8EncodeChar_eq_singleton (ht d List.mem_cons_self)
      show String.utf8EncodeChar c ++ encode s < String.utf8EncodeChar d ++ encode t
      rw [hc, hd, List.singleton_append, List.singleton_append, List.cons_lt_cons_iff]
      rcases List.cons_lt_cons_iff.1 h with hlt | ⟨rfl, hlt⟩
      · refine .inl ?_
        rw [UInt8.lt_iff_toNat_lt, (toNat_byte (hs c List.mem_cons_self)).1,
          (toNat_byte (ht d List.mem_cons_self)).1]
        exact hlt
      · have hs' : ∀ x ∈ s, x.utf8Size = 1 := fun x hx => hs x (List.mem_cons_of_mem _ hx)
        have ht' : ∀ x ∈ t, x.utf8Size = 1 := fun x hx => ht x (List.mem_cons_of_mem _ hx)
        exact .inr ⟨rfl, ih hs' ht' hlt⟩

end ReleaseCatalog.Text.Utf8
