import SeriesGateway.Plan.Query
import SeriesGateway.Proofs.Calendar

/-! # Conditions on dates

Queries narrow the dates of rows before they narrow their times. No row is lost by it: the
date of a time between two bounds is between the dates of the bounds, as a date and as the
text that storage compares.
-/

namespace SeriesGateway.Plan

open Calendar (Date ofEpochSecond)

/-- Both conditions of a query, one right behind the other, for the same bounds. -/
theorem source_eq (table : String) (start stop : UInt32) :
    source table start stop =
      "FROM " ++ table ++ " " ++
        (dateCondition start stop ++ (" " ++ rowCondition start stop)) := by
  have hsource : source table start stop =
      "FROM " ++ table ++ " " ++ dateCondition start stop ++ " " ++ rowCondition start stop := rfl
  rw [hsource, String.append_assoc, String.append_assoc]

theorem exists_append_source (before behind table : String) (start stop : UInt32) :
    ∃ front, before ++ source table start stop ++ behind =
      front ++ (dateCondition start stop ++ (" " ++ rowCondition start stop)) ++ behind := by
  refine ⟨before ++ ("FROM " ++ table ++ " "), ?_⟩
  rw [source_eq]
  simp only [String.append_assoc]

theorem exists_aggregatedText (table : String) (function : Aggregation)
    (step start stop : UInt32) :
    ∃ before behind, aggregatedText table function step start stop =
      before ++ source table start stop ++ behind :=
  ⟨_, _, rfl⟩

/-- The dates of times in order are in order, and so are their texts. -/
theorem dates_ordered {s t : UInt32} (h : s ≤ t) :
    ¬ (ofEpochSecond t).Before (ofEpochSecond s) ∧
      (ofEpochSecond s).text ≤ (ofEpochSecond t).text := by
  have hdays : ¬ (ofEpochSecond t).Before (ofEpochSecond s) := by
    rw [Calendar.ofEpochSecond_before_iff, Nat.not_lt]
    exact Nat.div_le_div_right (UInt32.le_iff_toNat_le.mp h)
  refine ⟨hdays, ?_⟩
  rw [← not_lt, Date.text_lt_iff (Calendar.hasFourDigits_ofEpochSecond t)
    (Calendar.hasFourDigits_ofEpochSecond s)]
  exact hdays

/-- The condition on dates never hides a row that the condition on times admits: the date of
a time from the one bound to the other is neither before the date of the first nor after
that of the second, and its text is between their texts. These are the dates that the texts
of both kinds of queries name right in front of the bounds. Two times have the same date,
and the same text of it, exactly if they fall in the same 86400 seconds; and the date of a
time is the date of the Gregorian calendar with as many days from 1970-01-01 up to it,
written as four digits of the year, two of the month and two of the day. -/
theorem dates_admit_times :
    (∀ start time stop : UInt32, start ≤ time → time ≤ stop →
      ((ofEpochSecond start).text ≤ (ofEpochSecond time).text ∧
        (ofEpochSecond time).text ≤ (ofEpochSecond stop).text) ∧
      ¬ (ofEpochSecond time).Before (ofEpochSecond start) ∧
      ¬ (ofEpochSecond stop).Before (ofEpochSecond time)) ∧
    (∀ (table : String) (function : Aggregation) (step start stop : UInt32),
      let first := (ofEpochSecond start).text
      let last := (ofEpochSecond stop).text
      ∀ text ∈ [rawText table start stop, aggregatedText table function step start stop],
        ∃ before behind, text = before ++
          (s!"PREWHERE Date >= '{first}' AND Date <= '{last}'" ++ (" " ++
            s!"WHERE (Path IN metrics_list) AND (Time >= {start} AND Time <= {stop})")) ++
          behind) ∧
    (∀ s t : UInt32,
      (ofEpochSecond s = ofEpochSecond t ↔ s.toNat / 86400 = t.toNat / 86400) ∧
      ((ofEpochSecond s).text = (ofEpochSecond t).text ↔ s.toNat / 86400 = t.toNat / 86400)) ∧
    ∀ (time : UInt32) (date : Date),
      (date = ofEpochSecond time ↔
        date.IsGregorian ∧ date.epochDay = (time.toNat / 86400 : Nat)) ∧
      (date = ofEpochSecond time → date.text.toList =
        [Nat.digitChar (date.year / 1000), Nat.digitChar (date.year / 100 % 10),
          Nat.digitChar (date.year / 10 % 10), Nat.digitChar (date.year % 10), '-',
          Nat.digitChar (date.month / 10), Nat.digitChar (date.month % 10), '-',
          Nat.digitChar (date.day / 10), Nat.digitChar (date.day % 10)]) := by
  refine ⟨?_, ?_, ?_, ?_⟩
  · intro start time stop hstart hstop
    obtain ⟨hfirst, hfirstText⟩ := dates_ordered hstart
    obtain ⟨hlast, hlastText⟩ := dates_ordered hstop
    exact ⟨⟨hfirstText, hlastText⟩, hfirst, hlast⟩
  · intro table function step start stop first last text htext
    obtain ⟨before, behind, rfl⟩ : ∃ before behind,
        text = before ++ source table start stop ++ behind := by
      rcases List.mem_cons.mp htext with rfl | hother
      · exact ⟨_, _, rfl⟩
      · rw [List.mem_singleton.mp hother]
        exact exists_aggregatedText table function step start stop
    obtain ⟨front, hfront⟩ := exists_append_source before behind table start stop
    exact ⟨front, behind, hfront⟩
  · intro s t
    refine ⟨Calendar.ofEpochSecond_eq_iff s t, ?_⟩
    rw [← Calendar.ofEpochSecond_eq_iff s t]
    exact ⟨Date.text_inj (Calendar.hasFourDigits_ofEpochSecond s)
      (Calendar.hasFourDigits_ofEpochSecond t), congrArg Date.text⟩
  · intro time date
    obtain ⟨hdate, hdays⟩ := Calendar.ofEpochSecond_spec time
    refine ⟨⟨?_, ?_⟩, ?_⟩
    · rintro rfl
      exact ⟨hdate, hdays⟩
    · rintro ⟨hother, hsame⟩
      exact Date.epochDay_inj hother hdate (hsame.trans hdays.symm)
    · rintro rfl
      exact Date.toList_text_of_hasFourDigits (Calendar.hasFourDigits_ofEpochSecond time)

/-- The year 2100 is no leap year: the last second of February is followed by March. -/
theorem dates_admit_times_of_centuryEnd :
    let start : UInt32 := 4107542399
    let stop : UInt32 := 4107542400
    start ≤ stop ∧ (⟨2100, 2, 28⟩ : Date) = ofEpochSecond start ∧
      (⟨2100, 3, 1⟩ : Date) = ofEpochSecond stop ∧
      (ofEpochSecond start).text ≤ (ofEpochSecond stop).text ∧
      ¬ (ofEpochSecond stop).Before (ofEpochSecond start) := by
  intro start stop
  obtain ⟨hordered, -, -, hdates⟩ := dates_admit_times
  have hle : start ≤ stop := by decide
  obtain ⟨⟨htexts, -⟩, hdays, -⟩ := hordered start stop stop hle (UInt32.le_refl stop)
  refine ⟨hle, ?_, ?_, htexts, hdays⟩
  · rw [(hdates start _).1]
    exact ⟨⟨by decide, by decide, by decide, by decide⟩, by decide⟩
  · rw [(hdates stop _).1]
    exact ⟨⟨by decide, by decide, by decide, by decide⟩, by decide⟩

end SeriesGateway.Plan
