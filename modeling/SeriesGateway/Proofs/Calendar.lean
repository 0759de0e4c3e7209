import Mathlib.Data.String.Basic
import Mathlib.Tactic.IntervalCases
import SeriesGateway.Calendar

/-! # The Gregorian calendar

The date of an epoch second is the one that the rules of the Gregorian calendar give it:
it exists in the calendar, and the number of days from 1970-01-01 up to it, which a formula
counts without any loop, is the number of whole days in the seconds. Dates with years of
four digits have texts of ten characters, which are in the order of the dates.
-/

namespace SeriesGateway.Calendar

/-! ## Dates of the calendar -/

/-- Every fourth year is a leap year, but of the centuries only every fourth. -/
def IsLeapYear (year : Nat) : Prop := 4 ∣ year ∧ (100 ∣ year → 400 ∣ year)

instance (year : Nat) : Decidable (IsLeapYear year) := by
  unfold IsLeapYear
  infer_instance

/-- Thirty days has November, with April, June and September. -/
def monthLength (year month : Nat) : Nat :=
  if month = 2 then if IsLeapYear year then 29 else 28
  else if month ∈ [4, 6, 9, 11] then 30 else 31

namespace Date

/-- The date exists in the Gregorian calendar. -/
structure IsGregorian (d : Date) : Prop where
  one_le_month : 1 ≤ d.month
  month_le : d.month ≤ 12
  one_le_day : 1 ≤ d.day
  day_le : d.day ≤ monthLength d.year d.month

/-- Days from 1970-01-01 up to a date. Years are taken to begin with March, so that a leap
day is the last day of its year. -/
def epochDay (d : Date) : Int :=
  let year : Int := if d.month ≤ 2 then d.year - 1 else d.year
  let month : Int := (d.month + 9) % 12
  365 * year + year / 4 - year / 100 + year / 400 + (153 * month + 2) / 5 + d.day - 719469

/-- The calendar order: by year, then by month, then by day. -/
def Before (d e : Date) : Prop :=
  d.year < e.year ∨ d.year = e.year ∧ (d.month < e.month ∨ d.month = e.month ∧ d.day < e.day)

end Date

theorem isLeap_iff (year : Nat) : isLeap year = true ↔ IsLeapYear year := by
  simp only [isLeap, IsLeapYear, Bool.and_eq_true, Bool.or_eq_true, decide_eq_true_eq,
    bne_iff_ne, ne_eq, Nat.dvd_iff_mod_eq_zero]
  omega

/-! ## Counting days -/

/-- A year behind is as many days behind as the year has. -/
theorem epochDay_succ_year (year days : Nat) :
    (⟨year + 1, 1, days + 1⟩ : Date).epochDay =
      (⟨year, 1, days + daysInYear year + 1⟩ : Date).epochDay := by
  have hleap := isLeap_iff year
  simp only [IsLeapYear, Nat.dvd_iff_mod_eq_zero] at hleap
  simp only [Date.epochDay, daysInYear, Nat.one_le_ofNat, if_true]
  split
  next hyear =>
    have hrule := hleap.mp hyear
    push_cast
    omega
  next hyear =>
    have hrule := mt hleap.mpr hyear
    push_cast
    omega

/-- Counting off years ends within a year, and keeps the day counted to. -/
theorem countYears_spec (year days : Nat) :
    (countYears year days).2 < daysInYear (countYears year days).1 ∧
      (⟨(countYears year days).1, 1, (countYears year days).2 + 1⟩ : Date).epochDay =
        (⟨year, 1, days + 1⟩ : Date).epochDay := by
  induction year, days using countYears.induct with
  | case1 year days hlt =>
      rw [countYears, if_pos hlt]
      exact ⟨hlt, rfl⟩
  | case2 year days hge ih =>
      rw [countYears, if_neg hge]
      refine ⟨ih.1, ih.2.trans ?_⟩
      rw [epochDay_succ_year, Nat.sub_add_cancel (Nat.le_of_not_lt hge)]

/-- Counting off months ends within one of them, behind those in front of it. -/
theorem exists_countMonths {lengths : List Nat} (month : Nat) {days : Nat}
    (hdays : days < lengths.sum) :
    ∃ i length, lengths[i]? = some length ∧
      (countMonths month days lengths).1 = month + i ∧
      (countMonths month days lengths).2 < length ∧
      days = (lengths.take i).sum + (countMonths month days lengths).2 := by
  induction lengths generalizing month days with
  | nil => cases hdays
  | cons length rest ih =>
      rw [countMonths]
      split
      next hlt => exact ⟨0, length, rfl, rfl, hlt, by simp⟩
      next hge =>
        rw [List.sum_cons] at hdays
        have hleft : days - length < rest.sum := by omega
        obtain ⟨i, found, hfound, hmonth, hlt, hsum⟩ := ih (month + 1) hleft
        refine ⟨i + 1, found, hfound, ?_, hlt, ?_⟩
        · rw [hmonth]
          omega
        · rw [List.take_succ_cons, List.sum_cons]
          omega

theorem sum_monthLengths (year : Nat) : (monthLengths year).sum = daysInYear year := by
  unfold monthLengths daysInYear
  split <;> rfl

/-- The months of a year and the formula count the days of the year alike. -/
theorem epochDay_month {year i length : Nat} (hlength : (monthLengths year)[i]? = some length)
    (day : Nat) :
    i < 12 ∧ length = monthLength year (1 + i) ∧
      (⟨year, 1 + i, day + 1⟩ : Date).epochDay =
        (⟨year, 1, ((monthLengths year).take i).sum + day + 1⟩ : Date).epochDay := by
  have hi : i < 12 := (List.getElem?_eq_some_iff.mp hlength).1
  have hleap := isLeap_iff year
  refine ⟨hi, ?_⟩
  simp only [monthLengths, hleap] at hlength ⊢
  simp only [monthLength, Date.epochDay]
  by_cases hyear : IsLeapYear year
  all_goals
    have hrule := hyear
    simp only [IsLeapYear, Nat.dvd_iff_mod_eq_zero] at hrule
    simp only [hyear, if_true, if_false] at hlength ⊢
    interval_cases i
    all_goals
      simp at hlength
      simp
      omega

theorem ofEpochDay_spec (days : Nat) :
    (ofEpochDay days).IsGregorian ∧ (ofEpochDay days).epochDay = days := by
  obtain ⟨hwithin, hyears⟩ := countYears_spec 1970 days
  unfold ofEpochDay
  dsimp only
  generalize countYears 1970 days = counted at *
  obtain ⟨year, day⟩ := counted
  dsimp only at hwithin hyears ⊢
  rw [← sum_monthLengths] at hwithin
  obtain ⟨i, length, hlength, hmonth, hlt, hsum⟩ := exists_countMonths 1 hwithin
  generalize countMonths 1 day (monthLengths year) = found at *
  obtain ⟨month, left⟩ := found
  dsimp only at hmonth hlt hsum ⊢
  obtain ⟨hi, rfl, hdays⟩ := epochDay_month hlength left
  subst hmonth
  refine ⟨⟨Nat.le_add_right 1 i, by dsimp only; omega, Nat.le_add_left 1 left, hlt⟩, ?_⟩
  rw [hdays, ← hsum, hyears]
  simp only [Date.epochDay]
  push_cast
  omega

/-! ## The order of dates -/

namespace Date

variable {d e : Date}

/-- No day of a month is later than the days of later months of its year. -/
theorem epochDay_lt_of_month_lt (hd : d.IsGregorian) (he : e.IsGregorian)
    (hyear : d.year = e.year) (hmonth : d.month < e.month) : d.epochDay < e.epochDay := by
  obtain ⟨year, month, day⟩ := d
  obtain ⟨other, later, first⟩ := e
  obtain ⟨hmonthPos, hmonthLe, -, hdayLe⟩ := hd
  obtain ⟨-, hlaterLe, hfirst, -⟩ := he
  dsimp only at *
  subst hyear
  simp only [epochDay, monthLength] at hdayLe ⊢
  by_cases hleap : IsLeapYear year
  all_goals
    have hrule := hleap
    simp only [IsLeapYear, Nat.dvd_iff_mod_eq_zero] at hrule
    simp only [hleap, if_true, if_false] at hdayLe
    interval_cases month
    all_goals
      simp at hdayLe ⊢
      split
      all_goals omega

theorem epochDay_lt_of_year_lt (hd : d.IsGregorian) (he : e.IsGregorian)
    (hyear : d.year < e.year) : d.epochDay < e.epochDay := by
  -- the ends of the two years, and the beginnings, are between the dates
  have hlast : d.epochDay ≤ (⟨d.year, 12, 31⟩ : Date).epochDay := by
    rcases Nat.lt_or_eq_of_le hd.month_le with hmonth | hmonth
    · have hend : (⟨d.year, 12, 31⟩ : Date).IsGregorian :=
        ⟨by simp, by simp, by simp, by simp [monthLength]⟩
      exact Int.le_of_lt (epochDay_lt_of_month_lt hd hend rfl hmonth)
    · have hday := hd.day_le
      simp only [epochDay, hmonth, monthLength] at hday ⊢
      simp at hday ⊢
      omega
  have hfirst : (⟨e.year, 1, 1⟩ : Date).epochDay ≤ e.epochDay := by
    rcases Nat.lt_or_eq_of_le he.one_le_month with hmonth | hmonth
    · have hbegin : (⟨e.year, 1, 1⟩ : Date).IsGregorian :=
        ⟨by simp, by simp, by simp, by simp [monthLength]⟩
      exact Int.le_of_lt (epochDay_lt_of_month_lt hbegin he rfl hmonth)
    · have hday := he.one_le_day
      simp only [epochDay, ← hmonth]
      omega
  have hyears : (⟨d.year, 12, 31⟩ : Date).epochDay < (⟨e.year, 1, 1⟩ : Date).epochDay := by
    simp only [epochDay]
    simp
    omega
  omega

/-- Of two dates that are not the same one is before the other. -/
theorem eq_of_not_before (hnot : ¬ d.Before e) (hnotAfter : ¬ e.Before d) : d = e := by
  obtain ⟨year, month, day⟩ := d
  obtain ⟨otherYear, otherMonth, otherDay⟩ := e
  simp only [Before, Date.mk.injEq] at hnot hnotAfter ⊢
  omega

theorem epochDay_lt_iff (hd : d.IsGregorian) (he : e.IsGregorian) :
    d.epochDay < e.epochDay ↔ d.Before e := by
  have hlt : ∀ {d e : Date}, d.IsGregorian → e.IsGregorian → d.Before e →
      d.epochDay < e.epochDay := by
    intro d e hd he hbefore
    rcases hbefore with hyear | ⟨hyear, hmonth | ⟨hmonth, hday⟩⟩
    · exact epochDay_lt_of_year_lt hd he hyear
    · exact epochDay_lt_of_month_lt hd he hyear hmonth
    · simp only [epochDay, hyear, hmonth]
      omega
  refine ⟨fun h => ?_, hlt hd he⟩
  by_contra hnot
  obtain rfl := eq_of_not_before hnot fun hafter => Int.lt_asymm h (hlt he hd hafter)
  exact Int.lt_irrefl _ h

/-- The number of its days tells a date of the calendar. -/
theorem epochDay_inj (hd : d.IsGregorian) (he : e.IsGregorian) (h : d.epochDay = e.epochDay) :
    d = e := by
  have hnot : ¬ d.Before e := fun hbefore =>
    Int.ne_of_lt ((epochDay_lt_iff hd he).mpr hbefore) h
  have hnotAfter : ¬ e.Before d := fun hbefore =>
    Int.ne_of_lt ((epochDay_lt_iff he hd).mpr hbefore) h.symm
  exact eq_of_not_before hnot hnotAfter

end Date

/-! ## Texts of dates -/

/-- Texts of one length are compared before what follows them. -/
theorem append_lt_append_iff {first second behind after : List Char}
    (hlength : first.length = second.length) :
    first ++ behind < second ++ after ↔ first < second ∨ first = second ∧ behind < after := by
  induction first generalizing second with
  | nil =>
      obtain rfl : second = [] := List.length_eq_zero_iff.mp hlength.symm
      simp
  | cons c first ih =>
      cases second with
      | nil => cases hlength
      | cons other second =>
          simp only [List.cons_append, List.cons_lt_cons_iff, List.cons.injEq,
            ih (Nat.succ.inj hlength)]
          tauto

theorem digitChar_lt_iff {m n : Nat} (hm : m < 10) (hn : n < 10) :
    Nat.digitChar m < Nat.digitChar n ↔ m < n := by
  interval_cases m <;> interval_cases n <;> decide

theorem padded_one {n : Nat} (hn : n < 10) : padded 1 n = [Nat.digitChar n] := by
  rw [padded, Nat.toDigits_of_lt_base hn]
  rfl

/-- The last digit stands behind those of the tenth part. -/
theorem padded_succ (width n : Nat) :
    padded (width + 2) n = padded (width + 1) (n / 10) ++ [Nat.digitChar (n % 10)] := by
  unfold padded
  dsimp only
  rcases Nat.lt_or_ge n 10 with hsmall | hlarge
  · rw [Nat.toDigits_of_lt_base hsmall, Nat.div_eq_of_lt hsmall, Nat.mod_eq_of_lt hsmall]
    simp [List.replicate_succ']
  · rw [Nat.toDigits_of_base_le (by decide) hlarge, List.length_append, ← List.append_assoc]
    simp

theorem length_padded {width n : Nat} (hn : n < 10 ^ (width + 1)) :
    (padded (width + 1) n).length = width + 1 := by
  induction width generalizing n with
  | zero => rw [padded_one (by simpa using hn)]; rfl
  | succ width ih =>
      have htenth : n / 10 < 10 ^ (width + 1) := by
        rw [Nat.pow_succ] at hn
        omega
      rw [padded_succ, List.length_append, ih htenth]
      rfl

/-- Padded numbers are in the order of the numbers. -/
theorem padded_lt_iff {width m n : Nat} (hm : m < 10 ^ (width + 1)) (hn : n < 10 ^ (width + 1)) :
    padded (width + 1) m < padded (width + 1) n ↔ m < n := by
  induction width generalizing m n with
  | zero =>
      rw [zero_add, pow_one] at hm hn
      simp only [padded_one hm, padded_one hn, List.cons_lt_cons_iff, lt_irrefl, and_false,
        or_false, digitChar_lt_iff hm hn]
  | succ width ih =>
      have htenths : m / 10 < 10 ^ (width + 1) ∧ n / 10 < 10 ^ (width + 1) := by
        rw [Nat.pow_succ] at hm hn
        omega
      have hbetween := ih htenths.1 htenths.2
      have hsame : padded (width + 1) (m / 10) = padded (width + 1) (n / 10) ↔
          m / 10 = n / 10 := by
        refine ⟨fun h => ?_, congrArg _⟩
        have hnot := mt hbetween.mpr (h ▸ lt_irrefl _)
        have hnotAfter := mt (ih htenths.2 htenths.1).mpr (h ▸ lt_irrefl _)
        omega
      have hlast : [Nat.digitChar (m % 10)] < [Nat.digitChar (n % 10)] ↔ m % 10 < n % 10 := by
        simp only [List.cons_lt_cons_iff, lt_irrefl, and_false, or_false]
        exact digitChar_lt_iff (Nat.mod_lt _ (by decide)) (Nat.mod_lt _ (by decide))
      rw [padded_succ, padded_succ, append_lt_append_iff
        ((length_padded htenths.1).trans (length_padded htenths.2).symm), hbetween, hsame, hlast]
      omega

theorem padded_inj {width m n : Nat} (hm : m < 10 ^ (width + 1)) (hn : n < 10 ^ (width + 1))
    (h : padded (width + 1) m = padded (width + 1) n) : m = n := by
  have hnot := mt (padded_lt_iff hm hn).mpr (h ▸ lt_irrefl _)
  have hnotAfter := mt (padded_lt_iff hn hm).mpr (h ▸ lt_irrefl _)
  omega

namespace Date

/-- The date has a text of ten characters. -/
structure HasFourDigits (d : Date) : Prop where
  year_lt : d.year < 10 ^ 4
  month_lt : d.month < 10 ^ 2
  day_lt : d.day < 10 ^ 2

variable {d e : Date}

theorem toList_text (d : Date) : d.text.toList =
    padded 4 d.year ++ ('-' :: (padded 2 d.month ++ ('-' :: padded 2 d.day))) := by
  simp [text]

/-- Four digits of the year, two of the month and two of the day. -/
theorem toList_text_of_hasFourDigits (h : d.HasFourDigits) : d.text.toList =
    [Nat.digitChar (d.year / 1000), Nat.digitChar (d.year / 100 % 10),
      Nat.digitChar (d.year / 10 % 10), Nat.digitChar (d.year % 10), '-',
      Nat.digitChar (d.month / 10), Nat.digitChar (d.month % 10), '-',
      Nat.digitChar (d.day / 10), Nat.digitChar (d.day % 10)] := by
  obtain ⟨hyear, hmonth, hday⟩ := h
  rw [toList_text, padded_succ, padded_succ, padded_succ, padded_succ, padded_succ, padded_one,
    padded_one, padded_one]
  · simp [Nat.div_div_eq_div_mul]
  all_goals omega

/-- Texts are in the order of the dates. -/
theorem text_lt_iff (hd : d.HasFourDigits) (he : e.HasFourDigits) :
    d.text < e.text ↔ d.Before e := by
  have hyear := length_padded hd.year_lt
  have hmonth := length_padded hd.month_lt
  have hyears : padded 4 d.year = padded 4 e.year ↔ d.year = e.year :=
    ⟨padded_inj hd.year_lt he.year_lt, congrArg _⟩
  have hmonths : padded 2 d.month = padded 2 e.month ↔ d.month = e.month :=
    ⟨padded_inj hd.month_lt he.month_lt, congrArg _⟩
  rw [String.lt_iff, toList_text, toList_text,
    append_lt_append_iff (hyear.trans (length_padded he.year_lt).symm), List.cons_lt_cons_iff,
    append_lt_append_iff (hmonth.trans (length_padded he.month_lt).symm), List.cons_lt_cons_iff,
    padded_lt_iff hd.year_lt he.year_lt, padded_lt_iff hd.month_lt he.month_lt,
    padded_lt_iff hd.day_lt he.day_lt, hyears, hmonths]
  simp [Before]

theorem text_inj (hd : d.HasFourDigits) (he : e.HasFourDigits) (h : d.text = e.text) : d = e := by
  have hnot := mt (text_lt_iff hd he).mpr (h ▸ lt_irrefl _)
  have hnotAfter := mt (text_lt_iff he hd).mpr (h ▸ lt_irrefl _)
  exact eq_of_not_before hnot hnotAfter

end Date

/-! ## Dates of epoch seconds -/

theorem ofEpochSecond_spec (seconds : UInt32) :
    (ofEpochSecond seconds).IsGregorian ∧
      (ofEpochSecond seconds).epochDay = (seconds.toNat / 86400 : Nat) :=
  ofEpochDay_spec _

/-- No epoch second is later than the year 2106. -/
theorem hasFourDigits_ofEpochSecond (seconds : UInt32) :
    (ofEpochSecond seconds).HasFourDigits := by
  obtain ⟨hdate, hdays⟩ := ofEpochSecond_spec seconds
  have hlast : (⟨2107, 1, 1⟩ : Date).IsGregorian :=
    ⟨by decide, by decide, by decide, by decide⟩
  have hbefore : (ofEpochSecond seconds).Before ⟨2107, 1, 1⟩ := by
    rw [← Date.epochDay_lt_iff hdate hlast, hdays]
    have hlt := seconds.toNat_lt
    have hnumber : (⟨2107, 1, 1⟩ : Date).epochDay = 50038 := by decide
    omega
  have hmonth := hdate.month_le
  have hday := hdate.day_le
  have hlength : monthLength (ofEpochSecond seconds).year (ofEpochSecond seconds).month ≤ 31 := by
    unfold monthLength
    split <;> [split; split] <;> omega
  simp only [Date.Before] at hbefore
  exact ⟨by omega, by omega, by omega⟩

/-- Dates are in the order of the days. -/
theorem ofEpochSecond_before_iff (s t : UInt32) :
    (ofEpochSecond s).Before (ofEpochSecond t) ↔ s.toNat / 86400 < t.toNat / 86400 := by
  obtain ⟨hfirst, hfirstDays⟩ := ofEpochSecond_spec s
  obtain ⟨hsecond, hsecondDays⟩ := ofEpochSecond_spec t
  rw [← Date.epochDay_lt_iff hfirst hsecond, hfirstDays, hsecondDays]
  omega

theorem ofEpochSecond_eq_iff (s t : UInt32) :
    ofEpochSecond s = ofEpochSecond t ↔ s.toNat / 86400 = t.toNat / 86400 := by
  refine ⟨fun h => ?_, fun h => by rw [ofEpochSecond, ofEpochSecond, h]⟩
  have hdays := (ofEpochSecond_spec s).2
  rw [h, (ofEpochSecond_spec t).2] at hdays
  omega

end SeriesGateway.Calendar
