import ReleaseCatalog.Date.Layout
import ReleaseCatalog.Proofs.Text.Lower
import ReleaseCatalog.Proofs.Text.PaddedDigits
import ReleaseCatalog.Proofs.VersionText

/-!
# Reading numbers of a fixed width

A number at the front of a text, with zeros in front up to the width that a
reader takes, is read as itself whatever stands behind it.

* `number_paddedDigits`, `signedYear_paddedDigits`: what the readers of numbers
  and of years find.
* `mail?_of_digits`: no mail date begins with three digits.
-/

namespace ReleaseCatalog.Date

open Text

variable {least width n : Nat} {ds s : List Char} {names : List String} {a : Char}

/-- Reading goes on behind what was read. This is about `>>=` and not `Option.bind`,
in which all that follows is simplified once more for each reader before it. -/
theorem some_bind {α β : Type} (a : α) (f : α → Option β) : (some a >>= f) = f a := rfl

/-- Reading ends where something cannot be read. -/
theorem none_bind {α β : Type} (f : α → Option β) : (none >>= f) = none := rfl

/-- **As many digits as the reader takes are read**, whatever stands behind them. -/
theorem number_digits (hdigits : ∀ c ∈ ds, isDigit c = true) (hleast : least ≤ ds.length)
    (hmost : ds.length ≤ 18) (rest : List Char) :
    number least ds.length (ds ++ rest) = some (natOfDigits ds, rest) := by
  have htaken : ((ds ++ rest).take ds.length).takeWhile isDigit = ds := by
    rw [List.take_left]
    exact List.takeWhile_eq_self_iff.2 hdigits
  have hsize : natOfDigits ds ≤ largestNumber := by
    have hlt := natOfDigits_lt hdigits
    have hpow : 10 ^ ds.length ≤ 10 ^ 18 := Nat.pow_le_pow_right (by decide) hmost
    unfold largestNumber
    omega
  unfold number
  simp only [htaken, hleast, hsize, and_self, if_true, List.drop_left]

/-- A number as wide as the reader takes is read as itself. -/
theorem number_paddedDigits (hwidth : 0 < width) (hmost : width ≤ 18) (hleast : least ≤ width)
    (hn : n < 10 ^ width) (rest : List Char) :
    number least width (paddedDigits width n ++ rest) = some (n, rest) := by
  have hlength := length_paddedDigits hwidth hn
  have hvalue := natOfDigits_paddedDigits width n
  have hread : number least (paddedDigits width n).length (paddedDigits width n ++ rest) = _ :=
    number_digits (paddedDigits_isDigit width n) (by omega) (by omega) rest
  rw [hlength, hvalue] at hread
  exact hread

/-- There are no blanks in front of a number. -/
theorem trimStart_of_isDigit (ha : isDigit a = true) : trimStart (a :: s) = a :: s :=
  List.dropWhile_cons_of_neg (Bool.eq_false_iff.1 (isBlank_of_isDigit ha))

theorem trimStart_paddedDigits (width n : Nat) (rest : List Char) :
    trimStart (paddedDigits width n ++ rest) = paddedDigits width n ++ rest := by
  obtain ⟨c, s, hcs, hc⟩ := exists_cons_paddedDigits width n rest
  rw [hcs, trimStart_of_isDigit hc]

/-- **A year of four digits is read as itself.** -/
theorem signedYear_paddedDigits (hn : n < 10000) (rest : List Char) :
    signedYear (paddedDigits 4 n ++ rest) = some ((n : Int), rest) := by
  have hnumber : number 1 4 (paddedDigits 4 n ++ rest) = some (n, rest) :=
    number_paddedDigits (by decide) (by decide) (by decide) hn rest
  obtain ⟨c, s, hcs, hc⟩ := exists_cons_paddedDigits 4 n rest
  rw [hcs] at hnumber ⊢
  unfold signedYear
  split
  · rename_i hsign
    obtain ⟨rfl, -⟩ := List.cons.inj hsign
    exact absurd hc (by decide)
  · rename_i hsign
    obtain ⟨rfl, -⟩ := List.cons.inj hsign
    exact absurd hc (by decide)
  · rw [hnumber]
    rfl

/-- A digit begins no word. -/
theorem word_eq_none {w : Char} {ws : List Char} (hw : isDigit w = false) (ha : isDigit a = true) :
    word (w :: ws) (a :: s) = none := by
  have hlower : a.toLower = a := by
    have hcode := toNat_of_isDigit ha
    unfold Char.toLower
    apply dif_neg
    intro hupper
    have hlow : 0x41 ≤ a.toNat := UInt32.le_iff_toNat_le.1 hupper.1
    omega
  rw [word, hlower, if_neg (ne_of_isDigit ha hw)]

theorem oneOf_eq_none (hnames : ∀ name ∈ names, name.toList.head?.map isDigit = some false)
    (ha : isDigit a = true) :
    oneOf names (a :: s) = none := by
  unfold oneOf
  apply List.findSome?_eq_none_iff.2
  rintro ⟨name, i⟩ hmem
  have hname := hnames name (List.fst_mem_of_mem_zipIdx hmem)
  cases hletters : name.toList with
  | nil =>
    rw [hletters] at hname
    exact nomatch hname
  | cons w ws =>
    rw [hletters] at hname
    have hw : isDigit w = false := Option.some.inj hname
    dsimp only
    rw [hletters, word_eq_none hw ha]
    rfl

/-- **No mail date begins with three digits**: not with a week day, and not with
a day of one or two digits and a blank behind it. -/
theorem mail?_of_digits (hdigits : ∀ c ∈ ds, isDigit c = true) (hlength : 3 ≤ ds.length)
    (rest : List Char) :
    mail? (ds ++ rest) = none := by
  obtain ⟨a, b, c, more, rfl⟩ : ∃ a b c more, ds = [a, b] ++ c :: more := by
    match ds, hlength with
    | a :: b :: c :: more, _ => exact ⟨a, b, c, more, rfl⟩
  have ha : isDigit a = true := hdigits a (by simp)
  have hc : isDigit c = true := hdigits c (by simp)
  have hwidth : [a, b].length = 2 := rfl
  have hweekday : shortWeekday (a :: b :: c :: (more ++ rest)) = none :=
    oneOf_eq_none (by decide +kernel) ha
  have hday : number 1 2 (a :: b :: c :: (more ++ rest)) =
      some (natOfDigits [a, b], c :: (more ++ rest)) :=
    number_digits (fun x hx => hdigits x (List.mem_append_left _ hx)) (by omega) (by omega)
      (c :: (more ++ rest))
  have hblank : blanks (c :: (more ++ rest)) = none := by
    rw [blanks, isBlank_of_isDigit hc]
    rfl
  unfold mail?
  simp only [List.cons_append, List.nil_append, trimStart_of_isDigit ha, hweekday, hday, hblank,
    some_bind, none_bind]

end ReleaseCatalog.Date
