import SeriesGateway.Decimal.Shortest

/-! # Decimal text of samples

How the shortest digits of a sample are written: with or without an exponent,
with or without a fraction on whole numbers.
-/

namespace SeriesGateway.Decimal

/-- The decisions of one text format for finite numbers. -/
structure Style where
  /-- Least position of the decimal point that is written without exponent. -/
  plainFrom : Option Int
  /-- Greatest position of the decimal point that is written without exponent. -/
  plainUpTo : Option Int
  /-- What a whole number without exponent ends with. -/
  wholeEnd : String
deriving Repr

/-- Whether a number with its point at `point` is written without exponent. -/
def Style.isPlain (style : Style) (point : Int) : Bool :=
  style.plainFrom.all (· ≤ point) && style.plainUpTo.all (point ≤ ·)

/-- Never an exponent, and no fraction on whole numbers. -/
def Style.positional : Style := ⟨none, none, ""⟩

/-- No exponent from `0.00001` on and below `10 ^ 16`; whole numbers keep a
fraction of zero. -/
def Style.json : Style := ⟨some (-4), some 16, ".0"⟩

/-- Positional text of digits with their point at `point`. -/
def plainText (style : Style) (digits : String) (point : Int) : String :=
  let zeros (n : Int) := String.ofList (List.replicate n.toNat '0')
  let count : Int := digits.length
  if point ≤ 0 then "0." ++ zeros (-point) ++ digits
  else if count ≤ point then digits ++ zeros (point - count) ++ style.wholeEnd
  else s!"{digits.take point.toNat}.{digits.drop point.toNat}"

/-- Text with one digit before the point and a signed exponent. -/
def exponentText (digits : String) (point : Int) : String :=
  let fraction := digits.drop 1
  let mantissa := if fraction.isEmpty then digits else s!"{digits.take 1}.{fraction}"
  let e := point - 1
  let sign := if e < 0 then "-" else "+"
  s!"{mantissa}e{sign}{e.natAbs}"

/-- Text of a finite sample. -/
def text (style : Style) (s : Sample) : String :=
  let sign := if s.isNegative then "-" else ""
  let body :=
    if s.magnitude = 0 then "0" ++ style.wholeEnd
    else
      let ⟨digits, point⟩ := shortest s
      let shown := toString digits
      if style.isPlain point then plainText style shown point else exponentText shown point
  sign ++ body

/-- Text of any sample for tables: the special values have names. -/
def tableText (s : Sample) : String :=
  if s.isNaN then "NaN"
  else if s.isInfinite then if s.isNegative then "-inf" else "inf"
  else text .positional s

end SeriesGateway.Decimal
