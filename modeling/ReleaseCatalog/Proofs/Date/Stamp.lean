import ReleaseCatalog.Order
import ReleaseCatalog.Proofs.Date.Scan

/-!
# The stamps of catalog entries

A stamp is a day and a minute. Dates are read by the first of many layouts that fits,
and those that come before the layout of a stamp do not fit: an Internet timestamp
and a date with seconds go on behind the minute, and a mail date begins otherwise. So
a stamp is read as the beginning of its minute. As long as years have four digits,
stamps are as wide as each other, and the order of the texts is the order of time.

* `Timestamp.readFrom_stamp`: what a layout reads from a stamp that begins as a
  stamp does.
* `Timestamp.ofText?_stamp`: a stamp is read as its minute.
* `Timestamp.compare_stamp`: stamps are in the order of their minutes.
* `Timestamp.stamp_chronological`: all of it.
-/

namespace ReleaseCatalog

open Text Date

theorem daysInMonth_le (year : Int) (month : Nat) : daysInMonth year month ≤ 31 := by
  unfold daysInMonth
  split
  · split <;> decide
  all_goals decide

theorem daysInMonth_of_lt {year : Int} {month : Nat} (h : 12 < month) :
    daysInMonth year month = 0 := by
  unfold daysInMonth
  split
  all_goals omega

namespace Day

theorem day_le (d : Day) : d.day ≤ 31 := by
  obtain ⟨-, -, -, hday⟩ := d.isDay
  exact Nat.le_trans hday (daysInMonth_le d.year d.month)

theorem month_le (d : Day) : d.month ≤ 12 := by
  obtain ⟨-, -, hfirst, hday⟩ := d.isDay
  by_cases h : 12 < d.month
  · rw [daysInMonth_of_lt h] at hday
    omega
  · omega

/-- A day is found by its numbers. -/
theorem of?_self (d : Day) : of? d.year d.month d.day = some d := dif_pos d.isDay

end Day

namespace Timestamp

variable {t u : Timestamp}

/-- The beginning of the minute. -/
def minuteStart (t : Timestamp) : Timestamp :=
  ⟨t.day, { Clock.midnight with
    hour := t.clock.hour, minute := t.clock.minute, hour_lt := t.clock.hour_lt,
    minute_lt := t.clock.minute_lt }⟩

/-- The year is one that four digits write. -/
structure PlainYear (t : Timestamp) : Prop where
  first : 0 ≤ t.day.year
  last : t.day.year ≤ 9999

theorem PlainYear.toNat_lt (h : t.PlainYear) : t.day.year.toNat < 10 ^ 4 := by
  have hlast := h.last
  omega

/-- All numbers of a stamp but the year have two digits. -/
theorem numbers_lt (t : Timestamp) :
    t.day.month < 10 ^ 2 ∧ t.day.day < 10 ^ 2 ∧ t.clock.hour < 10 ^ 2 ∧
    t.clock.minute < 10 ^ 2 := by
  have hmonth := t.day.month_le
  have hday := t.day.day_le
  have hhour := t.clock.hour_lt
  have hminute := t.clock.minute_lt
  omega

/-- The numbers of a stamp with the marks between them, each with what stands
behind it. -/
theorem toList_stamp (h : t.PlainYear) :
    t.stamp.toList = paddedDigits 4 t.day.year.toNat ++ '-' :: (paddedDigits 2 t.day.month ++ '-' ::
      (paddedDigits 2 t.day.day ++ ' ' :: (paddedDigits 2 t.clock.hour ++ ':' ::
        (paddedDigits 2 t.clock.minute ++ [])))) := by
  have hyear : Day.yearText t.day.year = paddedDigits 4 t.day.year.toNat := if_pos ⟨h.first, h.last⟩
  rw [stamp, String.toList_ofList, Day.text, hyear, Clock.minuteText]
  simp only [List.append_assoc, List.cons_append, List.append_nil]

/-- **A stamp is no Internet timestamp**, for want of seconds. -/
theorem internet?_stamp (h : t.PlainYear) : internet? t.stamp.toList = none := by
  obtain ⟨hmonth, hday, hhour, hminute⟩ := t.numbers_lt
  have hyear : ∀ rest, number 4 4 (paddedDigits 4 t.day.year.toNat ++ rest) =
      some (t.day.year.toNat, rest) :=
    number_paddedDigits (by decide) (by decide) (by decide) h.toNat_lt
  have htwo : ∀ {n}, n < 10 ^ 2 → ∀ rest, number 2 2 (paddedDigits 2 n ++ rest) = some (n, rest) :=
    number_paddedDigits (by decide) (by decide) (by decide)
  rw [toList_stamp h]
  unfold internet?
  simp only [hyear, htwo hmonth, htwo hday, htwo hhour, htwo hminute, mark, if_true,
    some_bind, none_bind]

/-- **A stamp is no mail date**, since it begins with the year. -/
theorem mail?_stamp (h : t.PlainYear) : mail? t.stamp.toList = none := by
  have hlength := length_paddedDigits (by decide) h.toNat_lt
  rw [toList_stamp h]
  exact mail?_of_digits (paddedDigits_isDigit 4 t.day.year.toNat) (by omega) _

/-- A layout that begins as a stamp does has read all of the stamp when it comes
to what it goes on with. -/
theorem readFrom_stamp (h : t.PlainYear) (parts : Parts) (layout : Layout) :
    Layout.readFrom parts (dayLayout '-' ++ [.blanks] ++ minuteLayout ++ layout) t.stamp.toList =
      Layout.readFrom ⟨t.day.year, t.day.month, t.day.day, t.clock.hour, t.clock.minute,
        parts.second⟩ layout [] := by
  obtain ⟨hmonth, hday, hhour, hminute⟩ := t.numbers_lt
  have hyear := signedYear_paddedDigits h.toNat_lt
  have hvalue : ((t.day.year.toNat : Nat) : Int) = t.day.year := Int.toNat_of_nonneg h.first
  have htwo : ∀ {n}, n < 10 ^ 2 → ∀ rest, number 1 2 (paddedDigits 2 n ++ rest) = some (n, rest) :=
    number_paddedDigits (by decide) (by decide) (by decide)
  have hblank : ∀ s, trimStart (' ' :: s) = trimStart s := fun _ => rfl
  rw [toList_stamp h]
  simp only [dayLayout, minuteLayout, List.cons_append, List.nil_append, Layout.readFrom,
    Piece.read, Date.mark, hblank, trimStart_paddedDigits, hyear, hvalue, htwo hmonth, htwo hday,
    htwo hhour, htwo hminute, Option.map_some, if_true]

/-- A date with seconds goes on behind the minute. -/
theorem read?_seconds_stamp (h : t.PlainYear) :
    Layout.read? (dayLayout '-' ++ [.blanks] ++ secondLayout) t.stamp.toList = none := by
  -- the layout begins as the one of a stamp does, and behind it there is nothing left
  -- to read
  have hlayout : dayLayout '-' ++ [.blanks] ++ secondLayout =
      dayLayout '-' ++ [.blanks] ++ minuteLayout ++ [.mark ':', .second] := rfl
  have hend : ∀ parts, Layout.readFrom parts [.mark ':', .second] [] = none := fun _ => rfl
  unfold Layout.read?
  rw [hlayout, readFrom_stamp h, hend]
  rfl

/-- A date without seconds is read as a whole. -/
theorem read?_minute_stamp (h : t.PlainYear) :
    Layout.read? (dayLayout '-' ++ [.blanks] ++ minuteLayout) t.stamp.toList =
      some t.minuteStart := by
  have hclock : Clock.of? t.clock.hour t.clock.minute 0 0 = some t.minuteStart.clock :=
    dif_pos ⟨t.clock.hour_lt, t.clock.minute_lt, by decide, by decide⟩
  have hread := readFrom_stamp h {} []
  rw [List.append_nil] at hread
  unfold Layout.read?
  simp only [hread, Layout.readFrom, if_true, some_bind, t.day.of?_self, hclock]
  rfl

/-- There are no blanks around a stamp, which begins and ends with a digit. -/
theorem trim_stamp (h : t.PlainYear) : trim t.stamp.toList = t.stamp.toList := by
  have hdigit : ∀ {c}, isDigit c = true → some (isBlank c) ≠ some true := by
    intro c hc
    rw [isBlank_of_isDigit hc]
    decide
  rw [trim_eq_self_iff]
  constructor
  · obtain ⟨c, s, hcs, hc⟩ := exists_cons_paddedDigits 4 t.day.year.toNat _
    rw [toList_stamp h, hcs, List.head?_cons, Option.map_some]
    exact hdigit hc
  · obtain ⟨ds, c, hds, hc⟩ := exists_concat_paddedDigits 2 t.clock.minute
    have hstamp : t.stamp.toList =
        (t.day.text ++ ' ' :: (paddedDigits 2 t.clock.hour ++ ':' :: ds)) ++ [c] := by
      rw [stamp, String.toList_ofList, Clock.minuteText, hds]
      simp only [List.append_assoc, List.cons_append]
    rw [hstamp, List.getLast?_concat, Option.map_some]
    exact hdigit hc

/-- **Reading a stamp gives the beginning of its minute.** -/
theorem ofText?_stamp (h : t.PlainYear) : ofText? t.stamp = some t.minuteStart := by
  unfold ofText? Date.read?
  rw [trim_stamp h, internet?_stamp h, mail?_stamp h]
  simp only [timestampLayouts, List.findSome?_cons, read?_seconds_stamp h, read?_minute_stamp h]
  rfl

/-- Years that four digits write are in the order of the numbers that are written. -/
theorem compare_toNat_year (ht : t.PlainYear) (hu : u.PlainYear) :
    Ord.compare t.day.year.toNat u.day.year.toNat = Ord.compare t.day.year u.day.year := by
  have hfirst := ht.first
  have hfirst' := hu.first
  have hlt : t.day.year.toNat < u.day.year.toNat ↔ t.day.year < u.day.year := by omega
  have hgt : u.day.year.toNat < t.day.year.toNat ↔ u.day.year < t.day.year := by omega
  rw [Nat.compare_eq_ite_lt, Int.compare_eq_ite_lt]
  simp only [hlt, hgt]

/-- **Stamps are in the order of their minutes.** -/
theorem compare_stamp (ht : t.PlainYear) (hu : u.PlainYear) :
    Ord.compare t.stamp u.stamp = t.minuteStart.compare u.minuteStart := by
  obtain ⟨hmonth, hday, hhour, hminute⟩ := t.numbers_lt
  obtain ⟨hmonth', hday', hhour', hminute'⟩ := u.numbers_lt
  have hyear := compareLex_paddedDigits_append (by decide) ht.toNat_lt hu.toNat_lt
  have htwo : ∀ {m n}, m < 10 ^ 2 → n < 10 ^ 2 → ∀ s s',
      List.compareLex Ord.compare (paddedDigits 2 m ++ s) (paddedDigits 2 n ++ s') =
        (Ord.compare m n).then (List.compareLex Ord.compare s s') :=
    compareLex_paddedDigits_append (by decide)
  rw [compare_eq_compareLex, toList_stamp ht, toList_stamp hu, hyear, compareLex_cons_self,
    htwo hmonth hmonth', compareLex_cons_self, htwo hday hday', compareLex_cons_self,
    htwo hhour hhour', compareLex_cons_self, htwo hminute hminute', compare_toNat_year ht hu]
  unfold compare Day.compare Clock.compare minuteStart
  simp only [Ordering.then_assoc]
  rfl

/-- **Stamps are read as what they were made from, and are in the order of time.**

For a year of four digits no layout that is tried before the one of a stamp fits
it: it is no Internet timestamp, no mail date and no date with seconds. It is
read as the beginning of its minute. So of two stamps the order as dates is the
order as texts, and both are the order of time. -/
theorem stamp_chronological (t : Timestamp) (ht : t.PlainYear) :
    internet? t.stamp.toList = none ∧ mail? t.stamp.toList = none ∧
    Layout.read? (dayLayout '-' ++ [.blanks] ++ secondLayout) t.stamp.toList = none ∧
    ofText? t.stamp = some t.minuteStart ∧
    ∀ u : Timestamp, u.PlainYear →
      SortKey.compareDates t.stamp u.stamp = Ord.compare t.stamp u.stamp ∧
      SortKey.compareDates t.stamp u.stamp = t.minuteStart.compare u.minuteStart := by
  refine ⟨internet?_stamp ht, mail?_stamp ht, read?_seconds_stamp ht, ofText?_stamp ht, ?_⟩
  intro u hu
  have hdates : SortKey.compareDates t.stamp u.stamp = t.minuteStart.compare u.minuteStart := by
    unfold SortKey.compareDates
    rw [ofText?_stamp ht, ofText?_stamp hu]
  exact ⟨hdates.trans (compare_stamp ht hu).symm, hdates⟩

/-- The last minute of a leap day, some way into it, and a midnight of the first
year. -/
theorem stamp_chronological_leap_day :
    let t : Timestamp :=
      ⟨⟨2024, 2, 29, by decide⟩, ⟨23, 59, 41, 500, by decide, by decide, by decide, by decide⟩⟩
    let u : Timestamp := ⟨⟨0, 12, 31, by decide⟩, .midnight⟩
    t.PlainYear ∧ u.PlainYear ∧ t.stamp = "2024-02-29 23:59" ∧ u.stamp = "0000-12-31 00:00" ∧
      (ofText? "2024-02-29 23:59").map text = some "2024-02-29T23:59:00" ∧
      SortKey.compareDates "2024-02-29 23:59" "0000-12-31 00:00" = .gt := by
  intro t u
  have ht : t.PlainYear := ⟨by decide, by decide⟩
  have hu : u.PlainYear := ⟨by decide, by decide⟩
  have hstamp : t.stamp = "2024-02-29 23:59" := by decide +kernel
  have hstamp' : u.stamp = "0000-12-31 00:00" := by decide +kernel
  have htext : t.minuteStart.text = "2024-02-29T23:59:00" := by decide +kernel
  have hminutes : t.minuteStart.compare u.minuteStart = .gt := by decide
  obtain ⟨-, -, -, hread, horder⟩ := stamp_chronological t ht
  obtain ⟨-, hdates⟩ := horder u hu
  rw [hstamp] at hread
  rw [hstamp, hstamp', hminutes] at hdates
  refine ⟨ht, hu, hstamp, hstamp', ?_, hdates⟩
  rw [hread, Option.map_some, htext]

end Timestamp

end ReleaseCatalog
