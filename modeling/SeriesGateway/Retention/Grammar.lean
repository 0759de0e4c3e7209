import SeriesGateway.Retention

/-! # The grammar of compact ladders

What a compact ladder may look like, said without a reader. A ladder is a sequence of
entries between commas, an entry is a step or nothing but blanks, and a step is two
amounts of seconds with a colon in between. An amount is digits with a unit directly
behind them; blanks may stand around it.
-/

namespace SeriesGateway.Retention

/-- What may stand behind digits, and the seconds that they count then. -/
def units : List (List Char × Nat) :=
  [([], 1), (['s'], 1), (['m'], 60), (['m', 'i', 'n'], 60), (['h'], 3600), (['d'], 86400),
    (['w'], 604800), (['y'], 31536000)]

/-- A number of seconds as it is spelled. There may be zeros in front of the digits. -/
structure Amount where
  digits : List Char
  suffix : List Char
  factor : Nat
  digits_ne_nil : digits ≠ []
  isDigit_of_mem : ∀ c ∈ digits, c.isDigit = true
  mem_units : (suffix, factor) ∈ units
deriving DecidableEq

namespace Amount

def text (amount : Amount) : List Char := amount.digits ++ amount.suffix

/-- The number that the digits denote. -/
def number (amount : Amount) : Nat := Nat.ofDigitChars 10 amount.digits 0

def seconds (amount : Amount) : Nat := amount.number * amount.factor

end Amount

/-- An amount with the blanks around it. -/
structure PaddedAmount where
  before : List Char
  amount : Amount
  after : List Char
  blank_before : ∀ c ∈ before, Text.isBlank c = true
  blank_after : ∀ c ∈ after, Text.isBlank c = true
deriving DecidableEq

def PaddedAmount.text (padded : PaddedAmount) : List Char :=
  padded.before ++ padded.amount.text ++ padded.after

/-- A step as it is written, of amounts that 32 bits can hold. -/
structure WrittenStep where
  age : PaddedAmount
  precision : PaddedAmount
  age_lt : age.amount.seconds < UInt32.size
  precision_lt : precision.amount.seconds < UInt32.size
deriving DecidableEq

namespace WrittenStep

def text (written : WrittenStep) : List Char := written.age.text ++ ':' :: written.precision.text

/-- What is written, without how. -/
def step (written : WrittenStep) : Retention :=
  ⟨UInt32.ofNat written.age.amount.seconds, UInt32.ofNat written.precision.amount.seconds⟩

end WrittenStep

/-- What may stand between commas. -/
inductive WrittenEntry where
  | blank (text : List Char) (blank_text : ∀ c ∈ text, Text.isBlank c = true)
  | step (written : WrittenStep)
deriving DecidableEq

namespace WrittenEntry

def text : WrittenEntry → List Char
  | blank text _ => text
  | step written => written.text

def step? : WrittenEntry → Option Retention
  | blank _ _ => none
  | step written => some written.step

end WrittenEntry

/-- A compact ladder as it is written. -/
structure WrittenLadder where
  entries : List WrittenEntry
deriving DecidableEq

namespace WrittenLadder

def text (written : WrittenLadder) : List Char :=
  Text.join ',' (written.entries.map WrittenEntry.text)

/-- The steps that are written, in order. -/
def steps (written : WrittenLadder) : List Retention :=
  written.entries.filterMap WrittenEntry.step?

end WrittenLadder

/-! ## Faults -/

/-- A text begins with digits, and what follows them does not. -/
structure BeginsWith (text digits rest : List Char) : Prop where
  text_eq : text = digits ++ rest
  isDigit_of_mem : ∀ c ∈ digits, c.isDigit = true
  not_isDigit_head : ∀ c ∈ rest.head?, c.isDigit = false

/-- Why a text without blanks around it is no amount that 32 bits can hold. Digits that
denote more than 64 bits can hold are to blame before what follows them. -/
inductive AmountFault (text : List Char) : String → Prop where
  | missing (h : BeginsWith text [] text) : AmountFault text "missing number"
  | long {digits rest : List Char} (h : BeginsWith text digits rest)
      (hlong : UInt64.size ≤ Nat.ofDigitChars 10 digits 0) : AmountFault text "bad number"
  | suffix {digits rest : List Char} (h : BeginsWith text digits rest) (hdigits : digits ≠ [])
      (hfits : Nat.ofDigitChars 10 digits 0 < UInt64.size)
      (hunknown : ∀ factor, (rest, factor) ∉ units) :
      AmountFault text "unknown unit, use s, m, h, d, w or y"
  | large {amount : Amount} (htext : text = amount.text) (hfits : amount.number < UInt64.size)
      (hlarge : UInt32.size ≤ amount.seconds) : AmountFault text "value too large"

/-- Why an entry is no step. The age is to blame before the precision. -/
inductive EntryFault (entry : List Char) : RuleError → Prop where
  | colon (hcolon : ':' ∉ entry) :
      EntryFault entry (.invalidRetention (String.ofList entry) "expected 'age:precision'")
  | age {age precision : List Char} {reason : String} (hentry : entry = age ++ ':' :: precision)
      (hcolon : ':' ∉ age) (hfault : AmountFault (Text.trim age) reason) :
      EntryFault entry (.invalidRetention (String.ofList (Text.trim age)) reason)
  | precision {age : PaddedAmount} {precision : List Char} {reason : String}
      (hentry : entry = age.text ++ ':' :: precision) (hage : age.amount.seconds < UInt32.size)
      (hfault : AmountFault (Text.trim precision) reason) :
      EntryFault entry (.invalidRetention (String.ofList (Text.trim precision)) reason)

end SeriesGateway.Retention
