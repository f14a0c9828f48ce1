import ListingFilter.Text.Blank
import ListingFilter.Text.Case
/-!
# Words for yes and no

Flags are given as words, in any case of letters and with blanks around them.
-/

namespace ListingFilter.Flag

/-- The words that set a flag. -/
def trueWords : List String := ["1", "true", "yes", "on"]

/-- The words that clear a flag. -/
def falseWords : List String := ["0", "false", "no", "off", ""]

/-- The word that a text holds. -/
def wordOf (text : String) : String := Text.lower (Text.trim text)

/-- The flag that a text sets or clears. -/
def ofText? (text : String) : Option Bool :=
  if trueWords.contains (wordOf text) then some true
  else if falseWords.contains (wordOf text) then some false
  else none

end ListingFilter.Flag
