import ListingFilter.Binary64.Reader
import ListingFilter.Clock
import ListingFilter.Keyword
/-!
# The type of a value

The value of a column, or of free text with a leading `=`, is an integer if it is written in digits,
as a time relative to the clock (`-3d`, `2M`) or as a date (`2024-01-31`, `2024-01-31T10:30`); it is
a double if it is written with a fraction or an exponent; anything else is a string. On a severity
column three names stand for numbers. A single line end after a numeral is not part of it.
-/

namespace ListingFilter

open Text (isDigit isDigitSymbol digitValue?)

/-- What a value stands for. -/
inductive TypedValue
  | integer (value : Int)
  | double (value : Binary64)
  | string
  deriving DecidableEq, Repr

namespace TypedValue

def type : TypedValue → ValueType
  | .integer _ => .integer
  | .double _ => .double
  | .string => .string

def integerValue : TypedValue → Int
  | .integer value => value
  | _ => 0

def doubleValue : TypedValue → Binary64
  | .double value => value
  | _ => .zero

/-- The columns on which names of severities are read. -/
def severityColumns : List String := ["severity", "new_severity"]

/-- The number that the name of a severity stands for. -/
def severity? (name : String) : Option Binary64 :=
  let name := Text.lower name
  if name = "log" then some .zero
  else if name = "false positive" then some (.ofRatio true 1 1)
  else if name = "error" then some (.ofRatio true 3 1)
  else none

/-- The characters without a single line end after them. -/
def dropLineEnd (cs : List Char) : List Char :=
  match cs.reverse with
  | '\n' :: rest => rest.reverse
  | _ => cs

/-- The number of seconds of a fixed unit of time. -/
def unitSeconds? (unit : Char) : Option Int :=
  if unit = 's' then some 1
  else if unit = 'm' then some 60
  else if unit = 'h' then some 3600
  else if unit = 'd' then some 86400
  else if unit = 'w' then some 604800
  else none

/-- The number of months of a calendar unit of time. -/
def unitMonths? (unit : Char) : Option Int :=
  if unit = 'M' then some 1 else if unit = 'y' then some 12 else none

/-- The moment that lies `amount` units after the clock; none for an unknown unit, or a shift by
months that leaves the calendar. -/
def shiftBy? (clock : Clock) (amount : Int) (unit : Char) : Except Fault (Option Int) :=
  match unitMonths? unit, unitSeconds? unit with
  | some months, _ => .ok (addMonths clock (amount * months)).toOption
  | none, some seconds =>
    match clock.truncated with
    | .ok now => .ok (some (now + amount * seconds))
    | .error fault => .error fault
  | none, none => .ok none

/-- A time relative to the clock: an integer and a unit. -/
def relativeTime? (clock : Clock) (cs : List Char) : Except Fault (Option Int) :=
  match (dropLineEnd cs).reverse with
  | [] => .ok none
  | unit :: front =>
    match Numeral.read? front.reverse with
    | some amount => shiftBy? clock amount unit
    | none => .ok none

/-- The value of a character among `'0'` to `'9'`, between the bounds. -/
def asciiDigit? (least greatest : Nat) (c : Char) : Option Nat :=
  let n := c.toNat - 48
  if 48 ≤ c.toNat && least ≤ n && n ≤ greatest then some n else none

def monthField? : List Char → Option Nat
  | [a, b] =>
    if a = '1' then (asciiDigit? 0 2 b).map (10 + ·)
    else if a = '0' then asciiDigit? 1 9 b
    else none
  | [c] => asciiDigit? 1 9 c
  | _ => none

def dayField? : List Char → Option Nat
  | [a, b] =>
    if a = '3' then (asciiDigit? 0 1 b).map (30 + ·)
    else if a = '2' then (digitValue? b).map (20 + ·)
    else if a = '1' then (digitValue? b).map (10 + ·)
    else if a = '0' || a = ' ' then asciiDigit? 1 9 b
    else none
  | [c] => asciiDigit? 1 9 c
  | _ => none

def hourField? : List Char → Option Nat
  | [a, b] =>
    if a = '2' then (asciiDigit? 0 3 b).map (20 + ·)
    else if a = '1' then (digitValue? b).map (10 + ·)
    else if a = '0' then digitValue? b
    else none
  | [c] => digitValue? c
  | _ => none

def minuteField? : List Char → Option Nat
  | [a, b] =>
    match asciiDigit? 0 5 a, digitValue? b with
    | some a, some b => some (10 * a + b)
    | _, _ => none
  | [c] => digitValue? c
  | _ => none

def yearField? : List Char → Option Nat
  | [a, b, c, d] => if [a, b, c, d].all isDigit then some (Numeral.value [a, b, c, d]) else none
  | _ => none

/-- The second of the day of a time of day: hours and minutes with a colon or an `h` between
them. -/
def timeOfDay? (cs : List Char) : Option Nat :=
  let isMark (c : Char) : Bool := c == ':' || c == 'h' || c == 'H'
  match hourField? (cs.takeWhile (!isMark ·)), cs.dropWhile (!isMark ·) with
  | some hour, _ :: rest => (minuteField? rest).map fun minute => 3600 * hour + 60 * minute
  | _, _ => none

/-- A day of the calendar and a second of it: year, month and day with hyphens between them, and a
time of day after a `T` of either case. -/
def date? (cs : List Char) : Option (Calendar.Date × Nat) :=
  let isTimeMark (c : Char) : Bool := c == 'T' || c == 't'
  match cs.drop 4 with
  | '-' :: rest =>
    match rest.dropWhile (· != '-') with
    | '-' :: rest' =>
      match yearField? (cs.take 4), monthField? (rest.takeWhile (· != '-')),
          dayField? (rest'.takeWhile (!isTimeMark ·)) with
      | some year, some month, some day =>
        let date : Calendar.Date := ⟨year, month, day⟩
        if 1 ≤ year && date.isValid then
          match rest'.dropWhile (!isTimeMark ·) with
          | [] => some (date, 0)
          | _ :: time => (timeOfDay? time).map fun second => (date, second)
        else none
      | _, _, _ => none
    | _ => none
  | _ => none

/-- The moment that a date stands for; none if the text is no date. -/
def dateTime? (cs : List Char) : Except Fault (Option Int) :=
  match date? cs with
  | none => .ok none
  | some (date, second) => (Calendar.timestamp date second).map some

/-- The number written as digits, optionally with a fraction after a point and an exponent of
ten. -/
def decimal? (cs : List Char) : Option Binary64 :=
  match DecimalNumeral.read? (dropLineEnd cs) with
  | some decimal => if decimal.whole.isEmpty then none else some (.ofNumeral decimal)
  | none => none

/-- The first character after a sign looks like a digit. A sign by itself is no sign. -/
def startsLikeNumeral (cs : List Char) : Bool :=
  match cs with
  | c :: d :: _ => if c == '+' || c == '-' then isDigitSymbol d else isDigitSymbol c
  | [c] => isDigitSymbol c
  | [] => false

/-- The value of a text that starts like a numeral. -/
def ofNumeral (clock : Clock) (cs : List Char) : Except Fault TypedValue :=
  if Numeral.isSignedDigits (dropLineEnd cs) then
    match Numeral.read? (dropLineEnd cs) with
    | some value => .ok (.integer value)
    | none => .ok .string
  else
    match relativeTime? clock cs with
    | .error fault => .error fault
    | .ok (some value) => .ok (.integer value)
    | .ok none =>
      match dateTime? cs with
      | .error fault => .error fault
      | .ok (some value) => .ok (.integer value)
      | .ok none =>
        match decimal? cs with
        | some value => .ok (if value.isFinite then .double value else .string)
        | none => .ok .string

/-- The value that `text` stands for on `column`. -/
def of (clock : Clock) (column : Option String) (text : String) : Except Fault TypedValue :=
  match if (column.map Text.lower).any severityColumns.contains then severity? text else none with
  | some value => .ok (.double value)
  | none => if startsLikeNumeral text.toList then ofNumeral clock text.toList else .ok .string

end TypedValue

end ListingFilter
