import ListingFilter.Json
/-!
# Reading JSON

A reader of JSON texts. Besides the standard it takes `NaN`, `Infinity` and `-Infinity` as numbers;
of two members with one name the later one counts. Control characters inside a string, a byte-order
mark at the start and anything after the value are refused, and so is an integer with more digits
than the caller allows.

Every function returns the value read and the characters after it. The nesting of values is bounded
by the length of the text, which is the fuel of the mutual recursion.
-/

namespace ListingFilter.Json

/-- The characters after the blanks of JSON. -/
def skipBlanks (cs : List Char) : List Char :=
  cs.dropWhile fun c => c == ' ' || c == '\t' || c == '\n' || c == '\r'

def hexValue? (c : Char) : Option Nat :=
  if '0' ≤ c && c ≤ '9' then some (c.toNat - 48)
  else if 'a' ≤ c && c ≤ 'f' then some (c.toNat - 87)
  else if 'A' ≤ c && c ≤ 'F' then some (c.toNat - 55)
  else none

/-- The number that four hexadecimal digits stand for. -/
def unit? (a b c d : Char) : Option Nat :=
  match hexValue? a, hexValue? b, hexValue? c, hexValue? d with
  | some a, some b, some c, some d => some (((a * 16 + b) * 16 + c) * 16 + d)
  | _, _, _, _ => none

/-- The character of a code unit that stands by itself. -/
def unitChar (unit : Nat) : Char :=
  if 0xD800 ≤ unit && unit ≤ 0xDFFF then Char.ofNat 0xFFFD else Char.ofNat unit

def simpleEscape? (c : Char) : Option Char :=
  if c = '"' || c = '\\' || c = '/' then some c
  else if c = 'b' then some (Char.ofNat 8)
  else if c = 'f' then some (Char.ofNat 12)
  else if c = 'n' then some '\n'
  else if c = 'r' then some '\r'
  else if c = 't' then some '\t'
  else none

/-- The rest of a string after its opening mark; `done` is what was read of it, in reverse, and
`high` the first unit of a pair that waits for its second. -/
def stringRest? (high : Option Nat) (done : List Char) : List Char → Option (String × List Char)
  | [] => none
  | '\\' :: 'u' :: a :: b :: c :: d :: rest =>
    match unit? a b c d, high with
    | none, _ => none
    | some unit, some high =>
      if 0xDC00 ≤ unit && unit ≤ 0xDFFF then
        let code := 0x10000 + (high - 0xD800) * 0x400 + (unit - 0xDC00)
        stringRest? none (Char.ofNat code :: done) rest
      else if 0xD800 ≤ unit && unit ≤ 0xDBFF then
        stringRest? (some unit) (unitChar high :: done) rest
      else stringRest? none (unitChar unit :: unitChar high :: done) rest
    | some unit, none =>
      if 0xD800 ≤ unit && unit ≤ 0xDBFF then stringRest? (some unit) done rest
      else stringRest? none (unitChar unit :: done) rest
  | c :: rest =>
    let done := match high with
      | some high => unitChar high :: done
      | none => done
    if c = '"' then some (String.ofList done.reverse, rest)
    else if c = '\\' then
      match rest with
      | [] => none
      | e :: rest =>
        match simpleEscape? e with
        | some c => stringRest? none (c :: done) rest
        | none => none
    else if c.toNat < 0x20 then none
    else stringRest? none (c :: done) rest

/-- The decimal digits of ASCII at the start, and the rest. -/
def spanDigits (cs : List Char) : List Char × List Char :=
  (cs.takeWhile Char.isDigit, cs.dropWhile Char.isDigit)

/-- A fraction: a point and at least one digit. -/
def fraction : List Char → List Char × List Char
  | '.' :: rest =>
    match spanDigits rest with
    | ([], _) => ([], '.' :: rest)
    | found => found
  | cs => ([], cs)

/-- An exponent: an `e` of either case, an optional sign and at least one digit. -/
def exponent? : List Char → Option (Int × List Char)
  | c :: rest =>
    if c = 'e' || c = 'E' then
      let (negative, rest) := Numeral.splitSign rest
      match spanDigits rest with
      | ([], _) => none
      | (ds, rest) => some (Numeral.signed negative (Numeral.value ds), rest)
    else none
  | [] => none

/-- A number after its sign. -/
def number? (maxDigits : Nat) (negative : Bool) (cs : List Char) : Option (Json × List Char) :=
  let (whole, rest) :=
    match cs with
    | '0' :: rest => (['0'], rest)
    | cs => spanDigits cs
  if whole.isEmpty then none
  else
    let (part, rest) := fraction rest
    let isWhole := part.isEmpty && (exponent? rest).isNone
    if isWhole then
      if whole.length ≤ maxDigits then
        some (.integer (Numeral.signed negative (Numeral.value whole)), rest)
      else none
    else
      let (exponent, rest) := (exponent? rest).getD (0, rest)
      let ds := whole ++ part
      some (.real (.ofDecimal negative (Numeral.value ds) ds.length (exponent - part.length)), rest)

/-- The rest after a word, if the characters start with it. -/
def word? (word : String) (cs : List Char) : Option (List Char) :=
  if word.toList.isPrefixOf cs then some (cs.drop word.length) else none

/-- A value that is neither an array nor an object. -/
def simple? (maxDigits : Nat) (cs : List Char) : Option (Json × List Char) :=
  match cs with
  | '"' :: rest => (stringRest? none [] rest).map fun (found, rest) => (.text found, rest)
  | 'n' :: _ => (word? "null" cs).map (.null, ·)
  | 't' :: _ => (word? "true" cs).map (.bool true, ·)
  | 'f' :: _ => (word? "false" cs).map (.bool false, ·)
  | 'N' :: _ => (word? "NaN" cs).map (.real .nan, ·)
  | 'I' :: _ => (word? "Infinity" cs).map (.real (.infinite false), ·)
  | '-' :: 'I' :: _ => (word? "-Infinity" cs).map (.real (.infinite true), ·)
  | '-' :: rest => number? maxDigits true rest
  | cs => number? maxDigits false cs

mutual

/-- A value at the start of the characters. -/
def value? (maxDigits : Nat) : Nat → List Char → Option (Json × List Char)
  | 0, _ => none
  | fuel + 1, '[' :: rest =>
    match skipBlanks rest with
    | ']' :: rest => some (.array [], rest)
    | rest => (items? maxDigits fuel rest).map fun (items, rest) => (.array items, rest)
  | fuel + 1, '\x7b' :: rest =>
    match skipBlanks rest with
    | '\x7d' :: rest => some (.object [], rest)
    | rest => (members? maxDigits fuel [] rest).map fun (members, rest) => (.object members, rest)
  | _ + 1, cs => simple? maxDigits cs

/-- The items of an array, after its bracket. -/
def items? (maxDigits : Nat) : Nat → List Char → Option (List Json × List Char)
  | 0, _ => none
  | fuel + 1, cs =>
    match value? maxDigits fuel cs with
    | none => none
    | some (item, rest) =>
      match skipBlanks rest with
      | ',' :: rest =>
        (items? maxDigits fuel (skipBlanks rest)).map fun (items, rest) => (item :: items, rest)
      | ']' :: rest => some ([item], rest)
      | _ => none

/-- The members of an object, after its brace, added to `done`. -/
def members? (maxDigits : Nat) :
    Nat → List (String × Json) → List Char → Option (List (String × Json) × List Char)
  | 0, _, _ => none
  | fuel + 1, done, '"' :: rest =>
    match stringRest? none [] rest with
    | none => none
    | some (name, rest) =>
      match skipBlanks rest with
      | ':' :: rest =>
        match value? maxDigits fuel (skipBlanks rest) with
        | none => none
        | some (value, rest) =>
          let done := assign done name value
          match skipBlanks rest with
          | ',' :: rest => members? maxDigits fuel done (skipBlanks rest)
          | '\x7d' :: rest => some (done, rest)
          | _ => none
      | _ => none
  | _ + 1, _, _ => none

end

/-- The value that `source` holds. -/
def read? (maxDigits : Nat) (source : String) : Option Json :=
  let cs := source.toList
  match value? maxDigits (2 * cs.length + 2) (skipBlanks cs) with
  | some (value, rest) => if (skipBlanks rest).isEmpty then some value else none
  | none => none

end ListingFilter.Json
