import ReleaseCatalog.Json.Printer
import ReleaseCatalog.Proofs.Json.Reading

/-!
# Reading JSON that was written

The writer writes JSON: its text of a value says that value (`says_pretty`). So
reading the bytes of a written value gives the value: `ofBytes?_pretty`.
-/

namespace ReleaseCatalog.Json

open Text Text.Utf8

/-! ## Strings and numbers -/

theorem isHexDigit_digitChar : ∀ n, n < 16 → IsHexDigit n.digitChar n := by decide

/-- How a character is written, it writes the code units of this character. -/
theorem Literal.escaped {s : List Char} {units : List Nat} (c : Char) (h : Literal s units) :
    Literal (Json.escaped c ++ s) (codeUnits c ++ units) := by
  unfold Json.escaped
  split
  case h_8 hquote hslash _ _ _ _ _ =>
    split
    case isTrue hcontrol =>
      have hzero : IsHexDigit '0' 0 := by decide
      have hhigh := isHexDigit_digitChar (c.toNat / 16) (by omega)
      have hlow := isHexDigit_digitChar (c.toNat % 16) (by omega)
      have hunit := Literal.unit hzero hzero hhigh hlow h
      rw [show 4096 * 0 + 256 * 0 + 16 * (c.toNat / 16) + c.toNat % 16 = c.toNat by omega] at hunit
      rw [codeUnits_of_lt (by omega)]
      exact hunit
    case isFalse hcontrol => exact .plain hquote hslash hcontrol h
  -- the other escapes have a letter of their own
  all_goals exact .escape (by decide) h

theorem literal_escaped (s : List Char) : Literal (s.flatMap escaped) (s.flatMap codeUnits) := by
  induction s with
  | nil => exact .empty
  | cons c s ih => exact ih.escaped c

theorem quoted_stringText (t : String) : Quoted (stringText t) (some t) :=
  .text (literal_escaped t.toList)

theorem numeral_numberText (n : Int) : Numeral (numberText n) (number n) := by
  unfold numberText
  split
  case isTrue hneg =>
    have hnumeral := Numeral.negative (n := n.natAbs) (by omega)
    rwa [show -(n.natAbs : Int) = n by omega] at hnumeral
  case isFalse hneg =>
    have hnumeral := Numeral.whole n.toNat
    rwa [Int.toNat_of_nonneg (by omega)] at hnumeral

theorem isSpace_nil : IsSpace [] := nofun

theorem isSpace_blank : IsSpace [' '] := by decide

theorem isSpace_newLine (level : Nat) : IsSpace (newLine level) := by
  intro c hc
  rcases List.mem_cons.1 hc with rfl | hc
  · decide
  · rw [List.eq_of_mem_replicate hc]
    decide

/-! ## Values -/

mutual

/-- **What is written is JSON**, and says the value. -/
theorem spells_prettyText (level : Nat) : ∀ v : Json, Spells (prettyText level v) v
  | unusable => .null
  | bool b => .bool b
  | number n => .numeral (numeral_numberText n)
  | text t => .text (quoted_stringText t)
  | list [] => .noItems isSpace_nil
  | list (v :: items) => by
    have hitems := spells_prettyItems (level + 1) (v :: items) (by simp) (isSpace_newLine level)
    simpa [prettyText] using Spells.items hitems
  | record [] => .noMembers isSpace_nil
  | record (m :: members) => by
    have hmembers :=
      spells_prettyMembers (level + 1) (m :: members) (by simp) (isSpace_newLine level)
    simpa [prettyText] using Spells.members hmembers

theorem spells_prettyItems (level : Nat) :
    ∀ (items : List Json), items ≠ [] → ∀ {after : List Char}, IsSpace after →
    SpellsItems (prettyItems level items ++ after) items
  | [], hne, _, _ => absurd rfl hne
  | [v], _, after, hafter => by
    have hv := Spaced.spaced (isSpace_newLine level) (spells_prettyText level v) hafter
    simpa [prettyItems] using SpellsItems.last hv
  | v :: w :: items, _, after, hafter => by
    have hv := Spaced.spaced (isSpace_newLine level) (spells_prettyText level v) isSpace_nil
    have hmore := spells_prettyItems level (w :: items) (by simp) hafter
    simpa [prettyItems] using SpellsItems.more hv hmore

theorem spells_prettyMembers (level : Nat) : ∀ (members : List (String × Json)), members ≠ [] →
    ∀ {after : List Char}, IsSpace after →
      SpellsMembers (prettyMembers level members ++ after) (members.map keyed)
  | [], hne, _, _ => absurd rfl hne
  | [(k, v)], _, after, hafter => by
    have hk := SpacedKey.spaced (isSpace_newLine level) (quoted_stringText k) isSpace_nil
    have hv := Spaced.spaced isSpace_blank (spells_prettyText level v) hafter
    simpa [prettyMembers, keyed] using SpellsMembers.last hk hv
  | (k, v) :: m :: members, _, after, hafter => by
    have hk := SpacedKey.spaced (isSpace_newLine level) (quoted_stringText k) isSpace_nil
    have hv := Spaced.spaced isSpace_blank (spells_prettyText level v) isSpace_nil
    have hmore := spells_prettyMembers level (m :: members) (by simp) hafter
    simpa [prettyMembers, keyed] using SpellsMembers.more hk hv hmore

end

theorem says_pretty (v : Json) : Says v.pretty v := by
  have hspaced := Spaced.spaced isSpace_nil (spells_prettyText 0 v) isSpace_nil
  rw [List.nil_append, List.append_nil] at hspaced
  exact hspaced.toSays String.toList_ofList

/-- **Reading what was written** gives the value back, for every value there is. -/
theorem ofBytes?_pretty (v : Json) : ofBytes? (bytes v.pretty) = some v :=
  ofBytes?_text (says_pretty v)

end ReleaseCatalog.Json
