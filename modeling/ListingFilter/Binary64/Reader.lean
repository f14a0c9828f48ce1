import ListingFilter.Binary64
import ListingFilter.Numeral.Decimal
/-!
# 64-bit numbers as text

A number is read from a decimal numeral, in which single underscores may group the digits, or from
the names of infinity and of no number in any case of letters. Blanks may stand around it.
-/

namespace ListingFilter.Binary64

/-- The number nearest to a decimal numeral. -/
def ofNumeral (decimal : DecimalNumeral) : Binary64 :=
  .ofDecimal decimal.negative (Numeral.value decimal.digits) decimal.digits.length
    (decimal.exponent - decimal.fraction.length)

/-- The number without digits that a word after a sign stands for. -/
def ofWord? (negative : Bool) (word : String) : Option Binary64 :=
  if word = "inf" || word = "infinity" then some (.infinite negative)
  else if word = "nan" then some .nan
  else none

/-- The number that a text holds. -/
def parse? (text : String) : Option Binary64 :=
  let cs := Numeral.dropPadding text.toList
  let (negative, word) := Numeral.splitSign cs
  match ofWord? negative (String.ofList (word.map Char.toLower)) with
  | some value => some value
  | none => ((Numeral.ungroupAll? false cs).bind DecimalNumeral.read?).map ofNumeral

end ListingFilter.Binary64
