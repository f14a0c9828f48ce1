import ListingFilter.Text.Blank
import ListingFilter.Text.Digit
/-!
# Integers as text

An integer is written in decimal digits and may be read from the digits of any script. A numeral has
at most `digitLimit` digits: a longer one is not read, and an integer that would need one is not
written.
-/

namespace ListingFilter.Numeral

open Text (isDigit digitValue? isBlank)

/-- The greatest number of digits of a numeral. -/
def digitLimit : Nat := 4300

/-- The decimal text of `n`, unless it is too long for a numeral. -/
def write? (n : Int) : Option String :=
  if n.natAbs < Nat.pow 10 digitLimit then some (toString n) else none

/-- The number that the digits `ds` stand for. -/
def value (ds : List Char) : Nat :=
  ds.foldl (fun n c => 10 * n + (digitValue? c).getD 0) 0

/-- Separates a leading sign; `true` stands for a minus. -/
def splitSign : List Char → Bool × List Char
  | '-' :: rest => (true, rest)
  | '+' :: rest => (false, rest)
  | cs => (false, cs)

/-- `n` with a sign. -/
def signed (negative : Bool) (n : Nat) : Int := if negative then -(n : Int) else n

/-- An optional sign and at least one digit, and nothing else. -/
def isSignedDigits (cs : List Char) : Bool :=
  let ds := (splitSign cs).2
  !ds.isEmpty && ds.all isDigit

/-- The integer written as an optional sign and at least one digit, within the limit. -/
def read? (cs : List Char) : Option Int :=
  let (negative, ds) := splitSign cs
  if !ds.isEmpty && ds.all isDigit && ds.length ≤ digitLimit then some (signed negative (value ds))
  else none

/-- The digits, without the single underscores that may stand between two digits. -/
def ungroup? : List Char → Option (List Char)
  | [] => none
  | [c] => if isDigit c then some [c] else none
  | c :: '_' :: rest => if isDigit c then (ungroup? rest).map (c :: ·) else none
  | c :: rest => if isDigit c then (ungroup? rest).map (c :: ·) else none

/-- The characters without underscores, each of which must stand between two digits; `afterDigit`
tells whether a digit comes before the characters. -/
def ungroupAll? (afterDigit : Bool) : List Char → Option (List Char)
  | [] => some []
  | ['_'] => none
  | '_' :: c :: rest =>
    if afterDigit && isDigit c then (ungroupAll? true rest).map (c :: ·) else none
  | c :: rest => (ungroupAll? (isDigit c) rest).map (c :: ·)

/-- The blanks that may stand around a numeral: all but the information separators. -/
def isPadding (c : Char) : Bool := isBlank c && !(0x1C ≤ c.toNat && c.toNat ≤ 0x1F)

/-- The characters without the blanks around a numeral. -/
def dropPadding (cs : List Char) : List Char :=
  ((cs.dropWhile isPadding).reverse.dropWhile isPadding).reverse

/-- The integer that a text holds between blanks; single underscores may group the digits. -/
def parse? (text : String) : Option Int :=
  let (negative, body) := splitSign (dropPadding text.toList)
  match ungroup? body with
  | none => none
  | some ds => if ds.length ≤ digitLimit then some (signed negative (value ds)) else none

end ListingFilter.Numeral
