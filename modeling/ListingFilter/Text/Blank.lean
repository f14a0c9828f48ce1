import ListingFilter.Text.Ranges
/-!
# Blank characters and trimming

A character is blank if it separates words in any script: the spaces, tabs and line ends of Unicode
and the four information separators U+001C to U+001F. Trimming removes blanks at the ends of a text
and nothing else.
-/

namespace ListingFilter.Text

/-- The code points of the blank characters. -/
def blankRanges : CodeRanges :=
  [
    (0x9, 0xD), (0x1C, 0x20), (0x85, 0x85), (0xA0, 0xA0), (0x1680, 0x1680), (0x2000, 0x200A),
    (0x2028, 0x2029), (0x202F, 0x202F), (0x205F, 0x205F), (0x3000, 0x3000)]

/-- `c` is a blank. -/
def isBlank (c : Char) : Bool := blankRanges.has c

/-- `cs` without the blanks at its end. -/
def dropBlanksAtEnd (cs : List Char) : List Char := (cs.reverse.dropWhile isBlank).reverse

/-- `text` without the blanks at its end. -/
def trimEnd (text : String) : String := String.ofList (dropBlanksAtEnd text.toList)

/-- `text` without the blanks at its two ends. -/
def trim (text : String) : String :=
  String.ofList (dropBlanksAtEnd (text.toList.dropWhile isBlank))

end ListingFilter.Text
