import SeriesGateway.Proofs.Text.Blank
import SeriesGateway.Retention.Grammar

/-! # Reading amounts

What the reader of amounts accepts is what the grammar spells, with the seconds that it
denotes, and its refusals are the faults of the grammar.
-/

namespace SeriesGateway.Retention

variable {text digits rest : List Char}

/-! ## Digits -/

theorem isDigit_eq (c : Char) : Decimal.isDigit c = c.isDigit := by
  rw [Bool.eq_iff_iff]
  simp [Decimal.isDigit, Char.isDigit, UInt32.le_iff_toNat_le]

theorem ofDigits_eq (digits : List Char) :
    Decimal.ofDigits 0 digits = Nat.ofDigitChars 10 digits 0 := rfl

theorem beginsWith_takeWhile (text : List Char) :
    BeginsWith text (text.takeWhile Decimal.isDigit) (text.dropWhile Decimal.isDigit) where
  text_eq := List.takeWhile_append_dropWhile.symm
  isDigit_of_mem c hc := (isDigit_eq c).symm.trans (List.mem_takeWhile_imp hc)
  not_isDigit_head c hc := by
    have hhead := List.head?_dropWhile_not Decimal.isDigit text
    rw [Option.mem_def.mp hc] at hhead
    simpa [isDigit_eq] using hhead

namespace BeginsWith

theorem takeWhile_eq (h : BeginsWith text digits rest) :
    text.takeWhile Decimal.isDigit = digits := by
  have hdigits : ∀ c ∈ digits, Decimal.isDigit c = true := fun c hc =>
    (isDigit_eq c).trans (h.isDigit_of_mem c hc)
  rw [h.text_eq, List.takeWhile_append_of_pos hdigits]
  cases hrest : rest with
  | nil => simp
  | cons c rest =>
      have hc : c.isDigit = false := h.not_isDigit_head c (by simp [hrest])
      simp [isDigit_eq, hc]

theorem dropWhile_eq (h : BeginsWith text digits rest) :
    text.dropWhile Decimal.isDigit = rest := by
  have htext : text.takeWhile Decimal.isDigit ++ text.dropWhile Decimal.isDigit = text :=
    List.takeWhile_append_dropWhile
  rw [h.takeWhile_eq] at htext
  exact List.append_cancel_left (htext.trans h.text_eq)

end BeginsWith

/-! ## Units -/

theorem unitSeconds?_eq_some_iff {suffix : List Char} {factor : Nat} :
    unitSeconds? suffix = some factor ↔ (suffix, factor) ∈ units := by
  constructor
  · intro hunit
    unfold unitSeconds? at hunit
    split at hunit <;> simp_all [units]
  · simp only [units, List.mem_cons, List.not_mem_nil, or_false, Prod.mk.injEq]
    rintro (⟨rfl, rfl⟩ | ⟨rfl, rfl⟩ | ⟨rfl, rfl⟩ | ⟨rfl, rfl⟩ | ⟨rfl, rfl⟩ | ⟨rfl, rfl⟩ |
      ⟨rfl, rfl⟩ | ⟨rfl, rfl⟩) <;> rfl

theorem isAlpha_of_mem_units : ∀ unit ∈ units, ∀ c ∈ unit.1, c.isAlpha = true := by
  simp [units]

theorem factor_pos_of_mem_units : ∀ unit ∈ units, 0 < unit.2 := by decide

theorem isUpper_iff {c : Char} : c.isUpper = true ↔ 65 ≤ c.toNat ∧ c.toNat ≤ 90 :=
  decide_eq_true_iff

theorem isLower_iff {c : Char} : c.isLower = true ↔ 97 ≤ c.toNat ∧ c.toNat ≤ 122 :=
  Bool.and_eq_true_iff.trans (and_congr decide_eq_true_iff decide_eq_true_iff)

theorem isAlpha_iff {c : Char} :
    c.isAlpha = true ↔ (65 ≤ c.toNat ∧ c.toNat ≤ 90) ∨ (97 ≤ c.toNat ∧ c.toNat ≤ 122) :=
  Bool.or_eq_true_iff.trans (or_congr isUpper_iff isLower_iff)

theorem not_isDigit_of_isAlpha {c : Char} (halpha : c.isAlpha = true) : c.isDigit = false := by
  have hrange := isAlpha_iff.mp halpha
  rw [← isDigit_eq, Decimal.isDigit, Bool.and_eq_false_iff, decide_eq_false_iff_not,
    decide_eq_false_iff_not]
  omega

theorem isBlank_of_isAlphanum {c : Char} (hc : c.isAlphanum = true) : Text.isBlank c = false := by
  have hrange : ((65 ≤ c.toNat ∧ c.toNat ≤ 90) ∨ (97 ≤ c.toNat ∧ c.toNat ≤ 122)) ∨
      (48 ≤ c.toNat ∧ c.toNat ≤ 57) := by
    rw [Char.isAlphanum, Bool.or_eq_true, isAlpha_iff] at hc
    simpa [Char.isDigit, UInt32.le_iff_toNat_le] using hc
  rw [← Bool.not_eq_true]
  intro hblank
  simp only [Text.isBlank, Bool.or_eq_true, Bool.and_eq_true, decide_eq_true_eq,
    beq_iff_eq] at hblank
  omega

namespace Amount

variable (amount : Amount)

theorem beginsWith : BeginsWith amount.text amount.digits amount.suffix where
  text_eq := rfl
  isDigit_of_mem := amount.isDigit_of_mem
  not_isDigit_head c hc := not_isDigit_of_isAlpha
    (isAlpha_of_mem_units _ amount.mem_units c (List.mem_of_mem_head? hc))

theorem number_le_seconds : amount.number ≤ amount.seconds :=
  Nat.le_mul_of_pos_right _ (factor_pos_of_mem_units _ amount.mem_units)

theorem isAlphanum_of_mem_text {c : Char} (hc : c ∈ amount.text) : c.isAlphanum = true := by
  rw [Char.isAlphanum, Bool.or_eq_true]
  rcases List.mem_append.mp hc with hdigit | hletter
  · exact .inr (amount.isDigit_of_mem c hdigit)
  · exact .inl (isAlpha_of_mem_units _ amount.mem_units c hletter)

theorem isBlank_of_mem_text {c : Char} (hc : c ∈ amount.text) : Text.isBlank c = false :=
  isBlank_of_isAlphanum (amount.isAlphanum_of_mem_text hc)

end Amount

/-! ## Outcomes -/

/-- The blanks around a text do not matter. -/
theorem parseSeconds_congr {other : List Char} (htrim : Text.trim text = Text.trim other) :
    parseSeconds text = parseSeconds other := by
  rw [parseSeconds, parseSeconds, htrim]

/-- The digits of an amount are read first; only then it matters how much they count. -/
theorem parseSeconds_of_text {amount : Amount} (htext : Text.trim text = amount.text)
    (hfits : amount.number < UInt64.size) :
    parseSeconds text =
      if amount.seconds < UInt32.size then .ok (UInt32.ofNat amount.seconds)
      else .error (.invalidRetention (String.ofList (Text.trim text)) "value too large") := by
  have hbegins : BeginsWith (Text.trim text) amount.digits amount.suffix :=
    htext ▸ amount.beginsWith
  have hnumber : Decimal.ofDigits 0 amount.digits = amount.number := ofDigits_eq _
  simp only [parseSeconds, hbegins.takeWhile_eq, hbegins.dropWhile_eq, hnumber,
    unitSeconds?_eq_some_iff.mpr amount.mem_units]
  rw [if_neg (by simpa using amount.digits_ne_nil), if_neg (Nat.not_le.mpr hfits)]
  rfl

theorem parseSeconds_of_amount {amount : Amount} (htext : Text.trim text = amount.text)
    (hlt : amount.seconds < UInt32.size) :
    parseSeconds text = .ok (UInt32.ofNat amount.seconds) := by
  have hfits : amount.number < UInt64.size :=
    calc
      amount.number ≤ amount.seconds := amount.number_le_seconds
      _ < UInt32.size := hlt
      _ < UInt64.size := by decide
  rw [parseSeconds_of_text htext hfits, if_pos hlt]

theorem parseSeconds_of_fault {reason : String} (hfault : AmountFault (Text.trim text) reason) :
    parseSeconds text = .error (.invalidRetention (String.ofList (Text.trim text)) reason) := by
  cases hfault with
  | missing hbegins =>
      simp only [parseSeconds, hbegins.takeWhile_eq]
      rfl
  | @long digits rest hbegins hlong =>
      have hdigits : digits.isEmpty = false := by
        cases digits with
        | nil => exact absurd hlong (by decide)
        | cons => rfl
      simp only [parseSeconds, hbegins.takeWhile_eq, ofDigits_eq]
      rw [if_neg (by simp [hdigits]), if_pos hlong]
  | @suffix digits rest hbegins hdigits hfits hunknown =>
      have hunit : unitSeconds? rest = none :=
        Option.eq_none_iff_forall_ne_some.mpr fun factor hfactor =>
          hunknown factor (unitSeconds?_eq_some_iff.mp hfactor)
      simp only [parseSeconds, hbegins.takeWhile_eq, hbegins.dropWhile_eq, ofDigits_eq, hunit]
      rw [if_neg (by simpa using hdigits), if_neg (Nat.not_le.mpr hfits)]
  | large htext hfits hlarge =>
      rw [parseSeconds_of_text htext hfits, if_neg (Nat.not_lt.mpr hlarge)]

/-- The faults are all that keeps a text from being an amount that 32 bits can hold. -/
theorem amount_or_fault (text : List Char) :
    (∃ amount : Amount, text = amount.text ∧ amount.seconds < UInt32.size) ∨
      ∃ reason, AmountFault text reason := by
  have hbegins := beginsWith_takeWhile text
  generalize text.takeWhile Decimal.isDigit = digits, text.dropWhile Decimal.isDigit = rest
    at hbegins
  by_cases hdigits : digits = []
  · subst hdigits
    have hrest : rest = text := hbegins.text_eq.symm
    exact .inr ⟨_, .missing (hrest ▸ hbegins)⟩
  by_cases hfits : Nat.ofDigitChars 10 digits 0 < UInt64.size
  swap
  · exact .inr ⟨_, .long hbegins (Nat.not_lt.mp hfits)⟩
  by_cases hunit : ∃ factor, (rest, factor) ∈ units
  swap
  · exact .inr ⟨_, .suffix hbegins hdigits hfits (not_exists.mp hunit)⟩
  obtain ⟨factor, hunit⟩ := hunit
  let amount : Amount := ⟨digits, rest, factor, hdigits, hbegins.isDigit_of_mem, hunit⟩
  have htext : text = amount.text := hbegins.text_eq
  by_cases hlt : amount.seconds < UInt32.size
  · exact .inl ⟨amount, htext, hlt⟩
  · exact .inr ⟨_, .large htext hfits (Nat.not_lt.mp hlt)⟩

/-- An amount is accepted for the number of seconds that it denotes, if 32 bits can hold
that number. The bounds on digits and product come to no more than this. -/
theorem parseSeconds_eq_ok_iff {seconds : UInt32} :
    parseSeconds text = .ok seconds ↔ ∃ amount : Amount, Text.trim text = amount.text ∧
      amount.seconds < UInt32.size ∧ UInt32.ofNat amount.seconds = seconds := by
  constructor
  · intro hok
    rcases amount_or_fault (Text.trim text) with ⟨amount, htext, hlt⟩ | ⟨reason, hfault⟩
    · rw [parseSeconds_of_amount htext hlt, Except.ok.injEq] at hok
      exact ⟨amount, htext, hlt, hok⟩
    · rw [parseSeconds_of_fault hfault] at hok
      exact nomatch hok
  · rintro ⟨amount, htext, hlt, rfl⟩
    exact parseSeconds_of_amount htext hlt

/-! ## Blanks around an amount -/

namespace PaddedAmount

variable (padded : PaddedAmount)

theorem trim_text : Text.trim padded.text = padded.amount.text :=
  Text.trim_padded padded.blank_before padded.blank_after
    fun _ hc => padded.amount.isBlank_of_mem_text hc

theorem not_mem_text {c : Char} (hblank : Text.isBlank c = false) (hc : c.isAlphanum = false) :
    c ∉ padded.text := by
  rw [PaddedAmount.text, List.mem_append, List.mem_append]
  rintro ((hbefore | hamount) | hafter)
  · exact Text.not_mem_of_isBlank hblank padded.blank_before hbefore
  · exact Bool.false_ne_true (hc.symm.trans (padded.amount.isAlphanum_of_mem_text hamount))
  · exact Text.not_mem_of_isBlank hblank padded.blank_after hafter

theorem exists_of_trim {amount : Amount} (htext : Text.trim text = amount.text) :
    ∃ padded : PaddedAmount, padded.amount = amount ∧ padded.text = text := by
  obtain ⟨before, after, hsplit, hbefore, hafter⟩ := Text.exists_trim text
  refine ⟨⟨before, amount, after, hbefore, hafter⟩, rfl, ?_⟩
  rw [PaddedAmount.text, ← htext, ← hsplit]

end PaddedAmount

end SeriesGateway.Retention
