import ListingFilter.Numeral
/-!
# Decimal numerals

A decimal numeral is a sign, digits before and after a point, and an exponent of ten. It has at
least one digit; everything else may be left out.
-/

namespace ListingFilter

open Text (isDigit)

/-- A decimal numeral, taken apart. -/
structure DecimalNumeral where
  negative : Bool
  /-- The digits before the point. -/
  whole : List Char
  /-- The digits after the point. -/
  fraction : List Char
  exponent : Int
  deriving DecidableEq, Repr

namespace DecimalNumeral

/-- The digits after a point, if there is one, and the rest. -/
def takeFraction : List Char → List Char × List Char
  | '.' :: rest => (rest.takeWhile isDigit, rest.dropWhile isDigit)
  | cs => ([], cs)

/-- The exponent that the characters after the digits state; 0 if there are none. -/
def exponent? : List Char → Option Int
  | [] => some 0
  | mark :: rest =>
    if (mark == 'e' || mark == 'E') && Numeral.isSignedDigits rest then
      let (negative, ds) := Numeral.splitSign rest
      some (Numeral.signed negative (Numeral.value ds))
    else none

/-- The numeral that the characters spell. -/
def read? (cs : List Char) : Option DecimalNumeral :=
  let (negative, cs) := Numeral.splitSign cs
  let whole := cs.takeWhile isDigit
  let (fraction, rest) := takeFraction (cs.dropWhile isDigit)
  if whole.isEmpty && fraction.isEmpty then none
  else (exponent? rest).map fun exponent => ⟨negative, whole, fraction, exponent⟩

/-- All digits of a numeral. -/
def digits (decimal : DecimalNumeral) : List Char := decimal.whole ++ decimal.fraction

end DecimalNumeral

end ListingFilter
