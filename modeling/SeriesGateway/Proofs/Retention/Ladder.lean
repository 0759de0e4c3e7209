import SeriesGateway.Proofs.Retention.Amount
import SeriesGateway.Proofs.Text.Fields
import SeriesGateway.Proofs.Traversal
import SeriesGateway.Rules.Pattern

/-! # Reading compact ladders

The reader of ladders accepts what the grammar writes and nothing else, and gives the
steps that are written. So it does not matter for a pattern whether its ladder is
configured as a list or written out in any way. A ladder that is refused is refused
for its first entry that is no step.
-/

namespace SeriesGateway.Retention

variable {entry field text : List Char} {step : Retention} {steps : List Retention}

/-! ## What separates -/

theorem isBlank_colon : Text.isBlank ':' = false := by decide

theorem isBlank_comma : Text.isBlank ',' = false := by decide

theorem colon_not_mem_padded (padded : PaddedAmount) : ':' ∉ padded.text :=
  padded.not_mem_text isBlank_colon (by decide)

theorem comma_not_mem_padded (padded : PaddedAmount) : ',' ∉ padded.text :=
  padded.not_mem_text isBlank_comma (by decide)

namespace WrittenStep

variable (written : WrittenStep)

theorem colon_mem_text : ':' ∈ written.text :=
  List.mem_append_right _ List.mem_cons_self

theorem comma_not_mem_text : ',' ∉ written.text := by
  rw [WrittenStep.text, List.mem_append, List.mem_cons]
  rintro (hage | hcolon | hprecision)
  · exact comma_not_mem_padded _ hage
  · exact absurd hcolon (by decide)
  · exact comma_not_mem_padded _ hprecision

theorem trim_text_ne_nil : Text.trim written.text ≠ [] := by
  intro hnil
  have hblank := Text.trim_eq_nil_iff.mp hnil
  exact Text.not_mem_of_isBlank isBlank_colon hblank written.colon_mem_text

end WrittenStep

theorem WrittenEntry.comma_not_mem_text (written : WrittenEntry) : ',' ∉ written.text := by
  cases written with
  | blank text hblank => exact Text.not_mem_of_isBlank isBlank_comma hblank
  | step written => exact written.comma_not_mem_text

/-! ## Entries -/

theorem parseEntry_append_colon {age : List Char} (hage : ':' ∉ age) (precision : List Char) :
    parseEntry (age ++ ':' :: precision) =
      (parseSeconds age).bind fun a => (parseSeconds precision).map fun p => ⟨a, p⟩ := by
  rw [parseEntry, Text.cut?_append_sep hage]
  rfl

theorem parseEntry_of_not_mem (hcolon : ':' ∉ entry) :
    parseEntry entry =
      .error (.invalidRetention (String.ofList entry) "expected 'age:precision'") := by
  rw [parseEntry, Text.cut?_eq_none_iff.mpr hcolon]

theorem parseEntry_text (written : WrittenStep) : parseEntry written.text = .ok written.step := by
  rw [WrittenStep.text, parseEntry_append_colon (colon_not_mem_padded _),
    parseSeconds_of_amount written.age.trim_text written.age_lt,
    parseSeconds_of_amount written.precision.trim_text written.precision_lt]
  rfl

theorem parseEntry_of_fault {e : RuleError} (hfault : EntryFault entry e) :
    parseEntry entry = .error e := by
  cases hfault with
  | colon hcolon => exact parseEntry_of_not_mem hcolon
  | age hentry hcolon hfault =>
      rw [hentry, parseEntry_append_colon hcolon, parseSeconds_of_fault hfault]
      rfl
  | @precision age _ _ hentry hage hfault =>
      rw [hentry, parseEntry_append_colon (colon_not_mem_padded _),
        parseSeconds_of_amount age.trim_text hage, parseSeconds_of_fault hfault]
      rfl

/-- The faults are all that keeps an entry from being a step. -/
theorem step_or_fault (entry : List Char) :
    (∃ written : WrittenStep, written.text = entry) ∨ ∃ e, EntryFault entry e := by
  by_cases hcolon : ':' ∈ entry
  swap
  · exact .inr ⟨_, .colon hcolon⟩
  obtain ⟨age, precision, rfl, hfree⟩ := List.eq_append_cons_of_mem hcolon
  rcases amount_or_fault (Text.trim age) with ⟨amount, hage, hagelt⟩ | ⟨reason, hfault⟩
  swap
  · exact .inr ⟨_, .age rfl hfree hfault⟩
  obtain ⟨age, rfl, rfl⟩ := PaddedAmount.exists_of_trim hage
  rcases amount_or_fault (Text.trim precision) with ⟨amount, hprecision, hlt⟩ | ⟨reason, hfault⟩
  swap
  · exact .inr ⟨_, .precision rfl hagelt hfault⟩
  obtain ⟨precision, rfl, rfl⟩ := PaddedAmount.exists_of_trim hprecision
  exact .inl ⟨⟨age, precision, hagelt, hlt⟩, rfl⟩

theorem parseEntry_eq_ok_iff :
    parseEntry entry = .ok step ↔
      ∃ written : WrittenStep, written.text = entry ∧ written.step = step := by
  constructor
  · intro hok
    rcases step_or_fault entry with ⟨written, rfl⟩ | ⟨e, hfault⟩
    · rw [parseEntry_text, Except.ok.injEq] at hok
      exact ⟨written, rfl, hok⟩
    · rw [parseEntry_of_fault hfault] at hok
      exact nomatch hok
  · rintro ⟨written, rfl, rfl⟩
    exact parseEntry_text written

theorem parseEntry_eq_error_iff {e : RuleError} :
    parseEntry entry = .error e ↔ EntryFault entry e := by
  refine ⟨fun herror => ?_, parseEntry_of_fault⟩
  rcases step_or_fault entry with ⟨written, rfl⟩ | ⟨fault, hfault⟩
  · rw [parseEntry_text] at herror
    exact nomatch herror
  · rw [parseEntry_of_fault hfault, Except.error.injEq] at herror
    exact herror ▸ hfault

/-- Blanks around an entry stand around its amounts, so it is the same step without them. -/
theorem parseEntry_trim_eq_ok_iff :
    parseEntry (Text.trim field) = .ok step ↔
      ∃ written : WrittenStep, written.text = field ∧ written.step = step := by
  rw [← parseEntry_eq_ok_iff]
  by_cases hcolon : ':' ∈ field
  · obtain ⟨age, precision, rfl, hfree⟩ := List.eq_append_cons_of_mem hcolon
    have hdropped : ':' ∉ age.dropWhile Text.isBlank := fun hmem =>
      hfree ((List.dropWhile_sublist _).subset hmem)
    rw [Text.trim_append_cons isBlank_colon, parseEntry_append_colon hdropped,
      parseEntry_append_colon hfree, parseSeconds_congr (Text.trim_dropWhile age),
      parseSeconds_congr (Text.trim_rdropWhile precision)]
  · obtain ⟨before, after, hsplit, -, -⟩ := Text.exists_trim field
    have htrimmed : ':' ∉ Text.trim field := fun hmem =>
      hcolon (hsplit ▸ List.mem_append_left _ (List.mem_append_right _ hmem))
    rw [parseEntry_of_not_mem hcolon, parseEntry_of_not_mem htrimmed]
    simp

/-! ## Ladders -/

/-- The fields of a ladder are read as the entries that are written in them. -/
theorem mapM_parseEntry_eq_ok_iff {fields : List (List Char)} :
    ((fields.map Text.trim).filter fun entry => !entry.isEmpty).mapM parseEntry = .ok steps ↔
      ∃ written : List WrittenEntry, written.map WrittenEntry.text = fields ∧
        written.filterMap WrittenEntry.step? = steps := by
  induction fields generalizing steps with
  | nil => simp [pure, Except.pure]
  | cons field fields ih =>
      rw [List.map_cons]
      -- a blank field is left out here and counts for no step there
      by_cases hblank : Text.trim field = []
      · rw [List.filter_cons_of_neg (by simp [hblank]), ih]
        constructor
        · rintro ⟨written, rfl, rfl⟩
          exact ⟨.blank field (Text.trim_eq_nil_iff.mp hblank) :: written, rfl, rfl⟩
        · rintro ⟨written, htexts, rfl⟩
          obtain ⟨entry, more, rfl, rfl, rfl⟩ := List.map_eq_cons_iff.mp htexts
          cases entry with
          | blank => exact ⟨more, rfl, rfl⟩
          | step entry => exact absurd hblank entry.trim_text_ne_nil
      · rw [List.filter_cons_of_pos (by simpa using hblank), Traversal.mapM_cons_eq_ok_iff]
        simp only [parseEntry_trim_eq_ok_iff, ih]
        constructor
        · rintro ⟨_, _, ⟨entry, rfl, rfl⟩, ⟨more, rfl, rfl⟩, rfl⟩
          exact ⟨.step entry :: more, rfl, rfl⟩
        · rintro ⟨written, htexts, rfl⟩
          obtain ⟨entry, more, rfl, rfl, rfl⟩ := List.map_eq_cons_iff.mp htexts
          cases entry with
          | blank entry hentry => exact absurd (Text.trim_eq_nil_iff.mpr hentry) hblank
          | step entry => exact ⟨_, _, ⟨entry, rfl, rfl⟩, ⟨more, rfl, rfl⟩, rfl⟩

theorem parseLadder_eq_ok_iff :
    parseLadder text = .ok steps ↔
      ∃ written : WrittenLadder, written.text = text ∧ written.steps = steps := by
  rw [parseLadder, entries, mapM_parseEntry_eq_ok_iff]
  constructor
  · rintro ⟨written, htexts, rfl⟩
    refine ⟨⟨written⟩, ?_, rfl⟩
    rw [WrittenLadder.text, htexts, Text.join_fields]
  · rintro ⟨⟨written⟩, rfl, rfl⟩
    by_cases hwritten : written = []
    · subst hwritten
      exact ⟨[.blank [] nofun], rfl, rfl⟩
    · refine ⟨written, (Text.fields_join (by simpa using hwritten) ?_).symm, rfl⟩
      intro text htext
      obtain ⟨entry, -, rfl⟩ := List.mem_map.mp htext
      exact entry.comma_not_mem_text

theorem parseLadder_text (written : WrittenLadder) :
    parseLadder written.text = .ok written.steps :=
  parseLadder_eq_ok_iff.mpr ⟨written, rfl, rfl⟩

theorem exists_parseEntry_eq_ok_iff :
    (∃ step, parseEntry entry = .ok step) ↔ ∃ written : WrittenStep, written.text = entry := by
  simp only [parseEntry_eq_ok_iff]
  exact ⟨fun ⟨_, written, htext, _⟩ => ⟨written, htext⟩,
    fun ⟨written, htext⟩ => ⟨_, written, htext, rfl⟩⟩

theorem parseLadder_eq_error_iff {e : RuleError} :
    parseLadder text = .error e ↔ ∃ before entry after,
      entries text = before ++ entry :: after ∧
        (∀ earlier ∈ before, ∃ written : WrittenStep, written.text = earlier) ∧
          EntryFault entry e := by
  rw [parseLadder, Traversal.mapM_eq_error_iff]
  simp only [exists_parseEntry_eq_ok_iff, parseEntry_eq_error_iff]

/-! ## Plain spelling -/

/-- A number of seconds in decimal digits. -/
def Amount.plain (n : UInt32) : Amount where
  digits := Nat.toDigits 10 n.toNat
  suffix := []
  factor := 1
  digits_ne_nil := Nat.toDigits_ne_nil
  isDigit_of_mem _ hc := Nat.isDigit_of_mem_toDigits (by decide) (by decide) hc
  mem_units := by decide

theorem Amount.seconds_plain (n : UInt32) : (Amount.plain n).seconds = n.toNat := by
  rw [Amount.seconds, Amount.number, Amount.plain, Nat.ofDigitChars_ten_toDigits, Nat.mul_one]

def PaddedAmount.plain (n : UInt32) : PaddedAmount := ⟨[], Amount.plain n, [], nofun, nofun⟩

def WrittenStep.plain (step : Retention) : WrittenStep where
  age := .plain step.age
  precision := .plain step.precision
  age_lt := (Amount.seconds_plain _).trans_lt step.age.toNat_lt_size
  precision_lt := (Amount.seconds_plain _).trans_lt step.precision.toNat_lt_size

theorem WrittenStep.step_plain (step : Retention) : (WrittenStep.plain step).step = step := by
  have hamount (n : UInt32) : UInt32.ofNat (PaddedAmount.plain n).amount.seconds = n := by
    rw [PaddedAmount.plain, Amount.seconds_plain, UInt32.ofNat_toNat]
  rw [WrittenStep.step, WrittenStep.plain, hamount, hamount]

/-- A ladder without blanks and units. -/
def WrittenLadder.plain (steps : List Retention) : WrittenLadder :=
  ⟨steps.map fun step => .step (.plain step)⟩

theorem WrittenLadder.steps_plain (steps : List Retention) :
    (WrittenLadder.plain steps).steps = steps := by
  have hstep : WrittenEntry.step? ∘ (fun step => .step (.plain step)) = some :=
    funext fun step => congrArg some (WrittenStep.step_plain step)
  rw [WrittenLadder.steps, WrittenLadder.plain, List.filterMap_map, hstep, List.filterMap_some]

/-! ## Compact and listed ladders -/

/-- A pattern does not show how its ladder was configured, and neither do its errors. -/
theorem compile_text (engine : RegexEngine) (written : WrittenLadder) (index : Nat)
    (regexp function : Option String) :
    RetentionPattern.compile engine index
        ⟨regexp, function, .compact (String.ofList written.text)⟩ =
      RetentionPattern.compile engine index ⟨regexp, function, .list written.steps⟩ := by
  have hsteps : (Spec.compact (String.ofList written.text)).steps =
      (Spec.list written.steps).steps := by
    rw [Spec.steps, Spec.steps, String.toList_ofList, parseLadder_text]
  rw [RetentionPattern.compile, RetentionPattern.compile, hsteps]

/-- Every list of steps can be written as a compact ladder, and however it is written,
that list is read and a pattern compiles as with the list itself. Nothing else is read:
an amount is accepted exactly if it is spelled by the grammar and 32 bits can hold what it
denotes, a ladder exactly if it is written by the grammar, and any other one is refused
with the fault of its first entry that is no step. -/
theorem compact_ladders_agree :
    (∀ steps : List Retention, ∃ written : WrittenLadder, written.steps = steps) ∧
    (∀ (engine : RegexEngine) (written : WrittenLadder) (index : Nat)
        (regexp function : Option String),
      RetentionPattern.compile engine index
          ⟨regexp, function, .compact (String.ofList written.text)⟩ =
        RetentionPattern.compile engine index ⟨regexp, function, .list written.steps⟩) ∧
    (∀ (text : List Char) (steps : List Retention), parseLadder text = .ok steps ↔
      ∃ written : WrittenLadder, written.text = text ∧ written.steps = steps) ∧
    (∀ (text : List Char) (seconds : UInt32), parseSeconds text = .ok seconds ↔
      ∃ amount : Amount, Text.trim text = amount.text ∧ amount.seconds < UInt32.size ∧
        UInt32.ofNat amount.seconds = seconds) ∧
    ∀ (text : List Char) (e : RuleError), parseLadder text = .error e ↔
      ∃ before entry after, entries text = before ++ entry :: after ∧
        (∀ earlier ∈ before, ∃ written : WrittenStep, written.text = earlier) ∧
          EntryFault entry e :=
  ⟨fun steps => ⟨.plain steps, WrittenLadder.steps_plain steps⟩, compile_text,
    fun _ _ => parseLadder_eq_ok_iff, fun _ _ => parseSeconds_eq_ok_iff,
    fun _ _ => parseLadder_eq_error_iff⟩

/-- The step `0 : 060s`. -/
def spacedStep : WrittenStep where
  age := ⟨[], ⟨['0'], [], 1, nofun, by simp, by decide⟩, [' '], nofun, by simp [Text.isBlank]⟩
  precision := ⟨[' '], ⟨['0', '6', '0'], ['s'], 1, nofun, by simp, by decide⟩, [],
    by simp [Text.isBlank], nofun⟩
  age_lt := by decide
  precision_lt := by decide

/-- The step `7d:5min` behind a tab and in front of a blank. -/
def weeklyStep : WrittenStep where
  age := ⟨['\t'], ⟨['7'], ['d'], 86400, nofun, by simp, by decide⟩, [],
    by simp [Text.isBlank], nofun⟩
  precision := ⟨[], ⟨['5'], ['m', 'i', 'n'], 60, nofun, by simp, by decide⟩, [' '],
    nofun, by simp [Text.isBlank]⟩
  age_lt := by decide
  precision_lt := by decide

theorem compact_ladders_agree_on_spacedStep :
    parseLadder "0 : 060s,,\t7d:5min ".toList = .ok [⟨0, 60⟩, ⟨604800, 300⟩] ∧
    (∀ engine : RegexEngine,
      RetentionPattern.compile engine 0 ⟨none, some "max", .compact "0 : 060s,,\t7d:5min "⟩ =
        RetentionPattern.compile engine 0 ⟨none, some "max", .list [⟨0, 60⟩, ⟨604800, 300⟩]⟩) ∧
    parseLadder "0 : 060s, 5 min ,:".toList =
      .error (.invalidRetention "5 min" "expected 'age:precision'") := by
  obtain ⟨-, hcompile, hladder, -, hfault⟩ := compact_ladders_agree
  let written : WrittenLadder := ⟨[.step spacedStep, .blank [] nofun, .step weeklyStep]⟩
  refine ⟨(hladder _ _).mpr ⟨written, by decide, by decide⟩,
    fun engine => hcompile engine written 0 none (some "max"),
    (hfault _ _).mpr ⟨["0 : 060s".toList], "5 min".toList, [[':']], by decide, ?_,
      .colon (by decide)⟩⟩
  intro earlier hearlier
  obtain rfl := List.mem_singleton.mp hearlier
  exact ⟨spacedStep, by decide⟩

end SeriesGateway.Retention
