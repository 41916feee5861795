import Mathlib.Data.List.TakeWhile
import ReleaseCatalog.Checksum
import ReleaseCatalog.Proofs.Digest.Block
import ReleaseCatalog.Proofs.Text.Lower
import ReleaseCatalog.Proofs.Text.Search

/-!
# Checksums written and read

A checksum field is found by looking for a label anywhere in a text, and what
follows the colon is read up to the first blank. A checksum that was written from
a label and a digest is found again whole, as there is no blank in a digest.

* `Checksum.atFront?_eq_some_iff`: what is read is what stands at the front,
  `Checksum.Heads`.
* `Checksum.ofText_text`: a checksum is read back as it was written.
* `Algorithm.digest_eq`: the digest of a content that comes in pieces is that of
  the whole content.
* `Checksum.agreesWith_hex_iff`: in which case the digits of a digest are
  written does not matter.
-/

namespace ReleaseCatalog

open Text Digest

variable {a b : Algorithm} {c : Checksum} {s : List Char} {bytes : List UInt8}

/-- **The digest of a content does not depend on the pieces in which it is read.** -/
theorem Algorithm.digest_eq (a : Algorithm) (pieces : List (List UInt8)) :
    a.digest pieces = hex (a.function.digest pieces.flatten) := by
  unfold Algorithm.digest
  rw [Hasher.finish_eq_digest]

/-- The test vector of the standard for the message `abc`, in two pieces. -/
example : Algorithm.sha512.digest ["a".toUTF8.toList, "bc".toUTF8.toList] =
    "ddaf35a193617abacc417349ae20413112e6fa4e89a97ea20a9eeee64b55d39a" ++
      "2192992a274fc1a836ba3c23a3feebbd454d4423643ce80e2a9ac94fa54ca49f" := by
  decide +kernel

/-- A digest consists of eight words. -/
theorem Digest.Sha2.length_digest {W : Type} (S : Sha2 W) (bytes : List UInt8) :
    (S.blockHash.digest bytes).length = 8 * S.wordSize := by
  show (List.flatMap _ _).length = _
  simp only [List.flatMap_cons, List.flatMap_nil, List.length_append, length_bigEndian,
    List.length_nil]
  omega

namespace Checksum

/-- No text starts with two labels. -/
theorem after?_label_of_ne (h : a ≠ b) (s : List Char) :
    after? a.label.toList (b.label.toList ++ s) = none := by
  cases a <;> cases b <;> first | exact absurd rfl h | rfl

/-- The checksum stands at the front of the text: the label of its algorithm, a
colon with blanks around it or none, and the digest, which goes on up to a blank
or to the end. -/
def Heads (c : Checksum) (s : List Char) : Prop :=
  c.digest.toList ≠ [] ∧ (∀ x ∈ c.digest.toList, isBlank x = false) ∧
    ∃ left right rest : List Char, (∀ x ∈ left, isBlank x = true) ∧
      (∀ x ∈ right, isBlank x = true) ∧
      (∀ x ∈ rest.head?, isBlank x = true) ∧
      s = c.algorithm.label.toList ++ (left ++ ([':'] ++ (right ++ (c.digest.toList ++ rest))))

/-- **The reader of a label finds the checksums of that algorithm.** -/
theorem labelled?_eq_some_iff : labelled? s a = some c ↔ c.algorithm = a ∧ c.Heads s := by
  unfold labelled? trimStart
  simp only [Option.bind_eq_bind, Option.bind_eq_some_iff]
  constructor
  · rintro ⟨behind, hbehind, field, hfield, h⟩
    rw [after?_eq_some_iff] at hbehind hfield
    split at h
    · exact absurd h.symm (Option.some_ne_none c)
    · rename_i hne
      obtain rfl := Option.some.inj h
      refine ⟨rfl, ?_⟩
      unfold Heads
      rw [String.toList_ofList]
      refine ⟨hne, fun x hx => ?_, behind.takeWhile isBlank, field.takeWhile isBlank,
        (field.dropWhile isBlank).dropWhile (fun x => !isBlank x),
        fun x hx => List.mem_takeWhile_imp hx, fun x hx => List.mem_takeWhile_imp hx,
        fun x hx => ?_, ?_⟩
      · simpa using List.mem_takeWhile_imp hx
      · simpa using head?_dropWhile (fun x => !isBlank x) (field.dropWhile isBlank) x hx
      · -- put together again what each reader took
        rw [List.takeWhile_append_dropWhile, List.takeWhile_append_dropWhile, ← hfield,
          List.takeWhile_append_dropWhile, hbehind]
  · rintro ⟨rfl, hne, hdigest, left, right, rest, hleft, hright, hrest, rfl⟩
    have hcolon : ∀ x ∈ ([':'] ++ (right ++ (c.digest.toList ++ rest))).head?,
        isBlank x = false := by
      rintro x ⟨⟩
      decide
    have hstart : ∀ x ∈ (c.digest.toList ++ rest).head?, isBlank x = false := by
      intro x hx
      rw [List.head?_append_of_ne_nil _ hne] at hx
      exact hdigest x (List.mem_of_mem_head? hx)
    have hrun : ∀ x ∈ c.digest.toList, (!isBlank x) = true := by
      intro x hx
      rw [hdigest x hx]
      rfl
    have hend : ∀ x ∈ rest.head?, (!isBlank x) = false := by
      intro x hx
      rw [hrest x hx]
      rfl
    refine ⟨_, after?_eq_some_iff.2 rfl, _, after?_eq_some_iff.2 (dropWhile_run hleft hcolon), ?_⟩
    rw [dropWhile_run hright hstart, takeWhile_run hrun hend, if_neg hne, String.ofList_toList]

/-- **The reader of a checksum finds the one at the front of a text.** -/
theorem atFront?_eq_some_iff : atFront? s = some c ↔ c.Heads s := by
  constructor
  · intro h
    obtain ⟨a, -, hread⟩ := List.exists_of_findSome?_eq_some h
    exact (labelled?_eq_some_iff.1 hread).2
  · intro h
    have hown : labelled? s c.algorithm = some c := labelled?_eq_some_iff.2 ⟨rfl, h⟩
    have hother : ∀ a, a ≠ c.algorithm → labelled? s a = none := by
      intro a ha
      obtain ⟨-, -, left, right, rest, -, -, -, rfl⟩ := h
      unfold labelled?
      rw [after?_label_of_ne ha]
      rfl
    unfold atFront? Algorithm.all
    -- the labels in front of the own one are tried in vain
    cases halgorithm : c.algorithm <;> rw [halgorithm] at hown hother <;>
      simp [hown, hother]

theorem toList_text (c : Checksum) :
    c.text.toList = c.algorithm.label.toList ++ ':' :: c.digest.toList := by
  simp [text]

/-- A checksum that was written stands at the front of what was written. -/
theorem heads_text (hne : c.digest ≠ "") (hblank : ∀ x ∈ c.digest.toList, isBlank x = false) :
    c.Heads c.text.toList := by
  have hdigits : c.digest.toList ≠ [] := fun h => hne (String.toList_eq_nil_iff.1 h)
  refine ⟨hdigits, hblank, [], [], [], by simp, by simp, by simp, ?_⟩
  rw [toList_text, List.append_nil]
  rfl

/-- **A checksum is read back as it was written**, if there is a digest without
a blank in it. -/
theorem ofText_text (hne : c.digest ≠ "") (hblank : ∀ x ∈ c.digest.toList, isBlank x = false) :
    ofText c.text = .ok c := by
  unfold ofText
  rw [leftmost_of_front (atFront?_eq_some_iff.2 (heads_text hne hblank))]

/-- A text is the digest of some bytes in hexadecimal digits, each letter of
them in either case. -/
def Spells (digest : String) (bytes : List UInt8) : Prop :=
  digest.toList.map Char.toLower = (hex bytes).toList

/-- The checksum with the letters of its digest in upper case. -/
def inCapitals (c : Checksum) : Checksum :=
  { c with digest := String.ofList (c.digest.toList.map Char.toUpper) }

theorem toLower_hexDigits : ∀ x ∈ hexDigits, x.toLower = x ∧ x.toUpper.toLower = x := by
  have hall : hexDigits.all (fun x => x.toLower = x ∧ x.toUpper.toLower = x) = true := by decide
  intro x hx
  exact of_decide_eq_true (List.all_eq_true.1 hall x hx)

theorem isBlank_hexDigits : ∀ x ∈ hexDigits, isBlank x = false := by
  have hall : hexDigits.all (fun x => isBlank x = false) = true := by decide
  intro x hx
  exact of_decide_eq_true (List.all_eq_true.1 hall x hx)

/-- A letter that is a digit in lower case is no blank. -/
theorem isBlank_of_toLower {x : Char} (h : x.toLower ∈ hexDigits) : isBlank x = false := by
  by_cases hascii : x.toNat < 0x80
  · rw [← isBlank_toLower hascii]
    exact isBlank_hexDigits _ h
  · have hself : x.toLower = x := by
      refine dif_neg fun hupper => hascii ?_
      have hle := UInt32.le_iff_toNat_le.1 hupper.2
      exact Nat.lt_of_le_of_lt hle (by decide)
    rw [hself] at h
    exact isBlank_hexDigits x h

theorem spells_hex (bytes : List UInt8) : Spells (hex bytes) bytes := by
  have hsame : ∀ x ∈ (hex bytes).toList, x.toLower = id x := by
    intro x hx
    exact (toLower_hexDigits x (mem_hexDigits_of_mem_hex hx)).1
  unfold Spells
  rw [List.map_congr_left hsame, List.map_id]

theorem spells_inCapitals (a : Algorithm) (bytes : List UInt8) :
    Spells (inCapitals ⟨a, hex bytes⟩).digest bytes := by
  have hsame : ∀ x ∈ (hex bytes).toList, (Char.toLower ∘ Char.toUpper) x = id x := by
    intro x hx
    exact (toLower_hexDigits x (mem_hexDigits_of_mem_hex hx)).2
  unfold Spells inCapitals
  rw [String.toList_ofList, List.map_map, List.map_congr_left hsame, List.map_id]

/-- **A digest in either case is read back from the field that it stands in.** -/
theorem ofText_of_spells (h : Spells c.digest bytes) (hne : bytes ≠ []) :
    ofText c.text = .ok c := by
  refine ofText_text ?_ fun x hx => ?_
  · intro hempty
    have hnone : ("".toList.map Char.toLower).length = 0 := rfl
    have hlength := congrArg List.length h
    rw [hempty, String.length_toList, length_hex, hnone] at hlength
    have hpos := List.length_pos_iff.2 hne
    omega
  · have hmem : x.toLower ∈ (hex bytes).toList := by
      rw [← h]
      exact List.mem_map_of_mem hx
    exact isBlank_of_toLower (mem_hexDigits_of_mem_hex hmem)

/-- **Digests agree exactly if they are digests of the same bytes**, whatever
the case of their letters. -/
theorem agreesWith_hex_iff (h : Spells c.digest bytes) {found : List UInt8} :
    c.agreesWith (hex found) = true ↔ found = bytes := by
  have hfound : (hex found).toList.map Char.toLower = (hex found).toList := spells_hex found
  unfold agreesWith
  rw [decide_eq_true_iff, hfound, h, String.toList_inj, hex_inj]

end Checksum

end ReleaseCatalog
