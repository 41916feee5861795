import ReleaseCatalog.Proofs.Json.Lexeme
import ReleaseCatalog.Proofs.Text.Digits

/-!
# Numbers as tokens

A number ends where the text behind it cannot go on with it. Its digits are read
as one run, then a fraction and an exponent are passed over.

* `EndsNumber`: no digit, point or exponent follows.
* `scanNumber_digits`: what is read behind the sign of a number.
* `scans_numeral`: a number is one token, with its value if it is whole.
-/

namespace ReleaseCatalog.Json

open Text Text.Utf8

variable {rest : List Symbol} {ts : List Token}

/-- The text does not go on with digits that stand before it. -/
def EndsDigits (s : List Symbol) : Prop := ∀ c, s.head? = some (some c) → isDigit c = false

/-- The text does not go on with a number that stands before it. -/
def EndsNumber (s : List Symbol) : Prop :=
  ∀ c, s.head? = some (some c) → isDigit c = false ∧ c ≠ '.' ∧ c ≠ 'e' ∧ c ≠ 'E'

theorem EndsNumber.endsDigits {s : List Symbol} (h : EndsNumber s) : EndsDigits s :=
  fun c hc => (h c hc).1

theorem endsNumber_nil : EndsNumber [] := fun _ h => nomatch h

theorem endsNumber_cons {c : Char} (h : c ∈ spaces ++ [',', ']', '}']) (s : List Symbol) :
    EndsNumber (some c :: s) := by
  have hall : (spaces ++ [',', ']', '}']).all
      (fun c => isDigit c = false ∧ c ≠ '.' ∧ c ≠ 'e' ∧ c ≠ 'E') = true := by
    decide
  intro d hd
  cases hd
  exact of_decide_eq_true (List.all_eq_true.1 hall c h)

theorem endsNumber_space {w : List Char} (hw : IsSpace w) (hr : EndsNumber rest) :
    EndsNumber (w.map some ++ rest) := by
  cases w with
  | nil => exact hr
  | cons c w =>
    exact endsNumber_cons (List.mem_append_left _ (hw c List.mem_cons_self)) _

theorem scanDigits_append {ds : List Char} (hd : ∀ c ∈ ds, isDigit c = true)
    (hr : EndsDigits rest) : scanDigits (ds.map some ++ rest) = (ds, rest) := by
  induction ds with
  | nil =>
    cases rest with
    | nil => rfl
    | cons c rest =>
      cases c with
      | none => rfl
      | some c =>
        have hc := hr c rfl
        simp [scanDigits, hc]
  | cons c ds ih =>
    have hc := hd c List.mem_cons_self
    have hrest := ih fun x hx => hd x (List.mem_cons_of_mem _ hx)
    simp [scanDigits, hc, hrest]

theorem scanFraction_end (hr : EndsNumber rest) : scanFraction rest = some (false, rest) := by
  cases rest with
  | nil => rfl
  | cons c rest =>
    cases c with
    | none => rfl
    | some c =>
      obtain ⟨-, hdot, he, hE⟩ := hr c rfl
      unfold scanFraction
      simp [hdot, he, hE]

theorem endsDigits_exponent {exponent : List Char} (h : Exponent exponent) (hr : EndsNumber rest) :
    EndsDigits (exponent.map some ++ rest) ∧
    (exponent.map some ++ rest).head? ≠ some (some '.') := by
  cases h with
  | none => exact ⟨hr.endsDigits, fun hpoint => (hr '.' hpoint).2.1 rfl⟩
  | some he _ _ => rcases he with rfl | rfl <;> exact ⟨fun c hc => by cases hc; decide, by simp⟩

theorem scanFraction_exponent {exponent : List Char} (h : Exponent exponent)
    (hr : EndsNumber rest) :
    scanFraction (exponent.map some ++ rest) = some (!exponent.isEmpty, rest) := by
  cases h with
  | none => exact scanFraction_end hr
  | @some e sign s he hsign h =>
    obtain ⟨hne, hdigits⟩ := h
    obtain ⟨d, ds, rfl⟩ := List.exists_cons_of_ne_nil hne
    have hd : isDigit d = true := hdigits d List.mem_cons_self
    have hplus : d ≠ '+' := by rintro rfl; exact absurd hd (by decide)
    have hminus : d ≠ '-' := by rintro rfl; exact absurd hd (by decide)
    have hscan := scanDigits_append hdigits hr.endsDigits
    rw [List.map_cons, List.cons_append] at hscan
    unfold scanFraction
    rcases he with rfl | rfl <;> rcases hsign with rfl | rfl | rfl <;> simp [hscan, hplus, hminus]

/-- Behind the point and the digits of a fraction, the number goes on as it
would without. -/
theorem scanFraction_point {s : List Char} (h : IsDigits s) (hr : EndsDigits rest)
    (hpoint : rest.head? ≠ some (some '.')) :
    scanFraction (some '.' :: (s.map some ++ rest)) =
      (scanFraction rest).map fun q => (true, q.2) := by
  unfold scanFraction
  simp only [scanDigits_append h.2 hr, if_neg h.1, Option.bind_eq_bind, Option.bind_some]
  -- whether an exponent follows is up to the next character, which is no point
  cases rest with
  | nil => rfl
  | cons c rest =>
    cases c with
    | none => rfl
    | some c =>
      have hc : c ≠ '.' := fun heq => hpoint (by rw [heq]; rfl)
      by_cases he : c = 'e'
      · subst he
        simp [apply_ite (Option.map _)]
      · by_cases hE : c = 'E'
        · subst hE
          simp [apply_ite (Option.map _)]
        · simp [hc, he, hE]

theorem endsDigits_fraction {fraction exponent : List Char} (hfraction : Fraction fraction)
    (hexponent : Exponent exponent)
    (hr : EndsNumber rest) : EndsDigits ((fraction ++ exponent).map some ++ rest) := by
  cases hfraction with
  | none => exact (endsDigits_exponent hexponent hr).1
  | some _ => exact fun c hc => by cases hc; decide

theorem scanFraction_eq {fraction exponent : List Char} (hfraction : Fraction fraction)
    (hexponent : Exponent exponent) (hr : EndsNumber rest) :
    scanFraction ((fraction ++ exponent).map some ++ rest) =
      some (!(fraction ++ exponent).isEmpty, rest) := by
  have hexp := scanFraction_exponent hexponent hr
  cases hfraction with
  | none => exact hexp
  | @some s h =>
    obtain ⟨hends, hpoint⟩ := endsDigits_exponent hexponent hr
    rw [List.cons_append, List.map_cons, List.cons_append, List.map_append, List.append_assoc,
      scanFraction_point h hends hpoint, hexp]
    rfl

/-- A number is read to the end of its fraction and exponent, if it has them. -/
theorem scanNumber_digits (negative : Bool) (n : Nat) {s : List Symbol} {more : Bool}
    (hs : EndsDigits s) (h : scanFraction s = some (more, rest)) :
    scanNumber negative ((digits n).map some ++ s) =
      some (if more || (negative && n == 0) then unusable else number (if negative then -n else n),
        rest) := by
  -- it has digits and no leading zero
  have hlead : ¬ (digits n = [] ∨ (digits n).head? = some '0' ∧ 1 < (digits n).length) := by
    rintro (h | ⟨h, hlen⟩)
    · exact digits_ne_nil n h
    · rcases Nat.eq_zero_or_pos n with rfl | hpos
      · exact absurd hlen (by decide)
      · exact head?_digits n (by omega) h
  unfold scanNumber
  rw [scanDigits_append (digits_isDigit n) hs]
  simp only [if_neg hlead, natOfDigits_digits, h, Option.bind_eq_bind, Option.bind_some]
  split <;> rfl

/-- A token that starts with a digit is a number. -/
theorem scanToken_digit {d : Char} (hd : isDigit d = true) (s : List Symbol) :
    scanToken (some d) s =
      (scanNumber false (some d :: s)).map fun q => (some (.plain q.1), q.2) := by
  have hne : ∀ c, d = c → isDigit c = true := by rintro c rfl; exact hd
  rw [scanToken, if_pos hd]
  -- no other token starts with a digit
  all_goals
    intros
    rename_i heq
    exact absurd (hne _ heq) (by decide)

/-- The sign of a number. -/
def signText (negative : Bool) : List Char := if negative then ['-'] else []

/-- What is read as a number is one token. -/
theorem scans_digits (negative : Bool) (n : Nat) {s : List Symbol} {v : Json}
    (h : scanNumber negative ((digits n).map some ++ s) = some (v, rest))
    (hlen : rest.length ≤ s.length)
    (hr : Scans rest ts) :
    Scans ((signText negative).map some ++ ((digits n).map some ++ s)) (.plain v :: ts) := by
  cases negative with
  | true =>
    have htoken : scanToken (some '-') ((digits n).map some ++ s) =
        some (some (.plain v), rest) := by
      rw [scanToken, h]
      rfl
    exact scans_token htoken (by simp; omega) hr
  | false =>
    cases hds : digits n with
    | nil => exact absurd hds (digits_ne_nil n)
    | cons d ds =>
      have hd : isDigit d = true := digits_isDigit n d (by rw [hds]; exact List.mem_cons_self)
      rw [hds, List.map_cons, List.cons_append] at h
      have htoken : scanToken (some d) (ds.map some ++ s) = some (some (.plain v), rest) := by
        rw [scanToken_digit hd, h]
        rfl
      exact scans_token htoken (by simp; omega) hr

/-- A number without fraction and exponent. -/
theorem scans_integer (negative : Bool) (n : Nat) (hr : EndsNumber rest) (hs : Scans rest ts) :
    Scans ((signText negative ++ digits n).map some ++ rest)
      (.plain (if negative && n == 0 then unusable else number (if negative then -n else n)) ::
        ts) := by
  have hscan := scanNumber_digits negative n hr.endsDigits (scanFraction_end hr)
  rw [List.map_append, List.append_assoc]
  exact scans_digits negative n hscan (Nat.le_refl _) hs

/-- **A number is one token**, if no text follows that would go on with it. -/
theorem scans_numeral {s : List Char} {v : Json} (h : Numeral s v) (hr : EndsNumber rest)
    (hs : Scans rest ts) :
    Scans (s.map some ++ rest) (.plain v :: ts) := by
  cases h with
  | whole n => exact scans_integer false n hr hs
  | @negative n hn =>
    have hscans := scans_integer true n hr hs
    simpa [signText, hn] using hscans
  | negativeZero => exact scans_integer true 0 hr hs
  | @broken sign fraction exponent hsign n hfraction hexponent hsome =>
    obtain ⟨negative, rfl⟩ : ∃ negative, sign = signText negative := by
      rcases hsign with rfl | rfl
      · exact ⟨false, rfl⟩
      · exact ⟨true, rfl⟩
    have hmore : (!(fraction ++ exponent).isEmpty) = true := by simpa using hsome
    have hfrac := scanFraction_eq hfraction hexponent hr
    have hscan := scanNumber_digits negative n (endsDigits_fraction hfraction hexponent hr) hfrac
    rw [hmore, Bool.true_or, if_pos rfl] at hscan
    have hscans := scans_digits negative n hscan (by simp; omega) hs
    rw [List.map_append, List.append_assoc, List.map_append, List.append_assoc]
    exact hscans

end ReleaseCatalog.Json
