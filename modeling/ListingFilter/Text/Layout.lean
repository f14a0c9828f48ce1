import ListingFilter.Numeral
/-!
# Layout of a text

A text may be laid out in a field of a least width: it is cut to a greatest length and then padded
with a fill character at its end, at its start, or at both.

A layout is written as an optional fill character with a mark of alignment, a width and, after a
point, a greatest length. A width that begins with a zero fills with zeros.
-/

namespace ListingFilter.Text

/-- Where the text stands in its field. -/
inductive Alignment
  | atStart
  | atEnd
  | centred
  deriving DecidableEq, Repr

/-- How a text is laid out. -/
structure Layout where
  fill : Char := ' '
  alignment : Alignment := .atStart
  /-- The least number of characters. -/
  width : Nat := 0
  /-- The greatest number of characters of the text itself. -/
  limit : Option Nat := none
  deriving DecidableEq, Repr

namespace Layout

/-- The marks of alignment. The last one is for numbers only. -/
def marks : List (Char × Option Alignment) :=
  [('<', some .atStart), ('>', some .atEnd), ('^', some .centred), ('=', none)]

/-- What a mark stands for, if the character is one. -/
def alignmentOf? (c : Char) : Option (Option Alignment) :=
  (marks.find? fun mark => mark.1 == c).map (·.2)

/-- The fill character if there is one, the alignment of a mark if there is one, and the rest. -/
def takeAlignment (cs : List Char) : Option Char × Option (Option Alignment) × List Char :=
  let short :=
    match cs with
    | c :: rest =>
      match alignmentOf? c with
      | some alignment => (none, some alignment, rest)
      | none => (none, none, cs)
    | [] => (none, none, cs)
  match cs with
  | c :: mark :: rest =>
    match alignmentOf? mark with
    | some alignment => (some c, some alignment, rest)
    | none => short
  | _ => short

/-- The greatest number that a layout may hold. -/
def greatestNumber : Nat := Nat.pow 2 63 - 1

/-- The number at the start of the characters, if there is one, and the rest. -/
def takeNumber (cs : List Char) : Option Nat × List Char :=
  match cs.takeWhile isDigit with
  | [] => (none, cs)
  | ds => (some (Numeral.value ds), cs.dropWhile isDigit)

/-- The greatest length after a point; nothing if the point has no number after it. -/
def takeLimit? : List Char → Option (Option Nat × List Char)
  | '.' :: rest =>
    match takeNumber rest with
    | (some n, rest) => some (some n, rest)
    | (none, _) => none
  | cs => some (none, cs)

/-- The layout that the characters stand for. A letter `s` may follow. -/
def read? (cs : List Char) : Option Layout :=
  let (fill, mark, rest) := takeAlignment cs
  let zero := fill.isNone && rest.head? = some '0'
  let (width, rest) := takeNumber rest
  match mark.getD (some .atStart), takeLimit? rest with
  | some alignment, some (limit, rest) =>
    if (rest = [] || rest = ['s']) && width.getD 0 ≤ greatestNumber &&
        limit.getD 0 ≤ greatestNumber then
      some ⟨fill.getD (if zero then '0' else ' '), alignment, width.getD 0, limit⟩
    else none
  | _, _ => none

/-- The number of fill characters before the text, of `missing` ones. -/
def before (missing : Nat) : Alignment → Nat
  | .atStart => 0
  | .atEnd => missing
  | .centred => missing / 2

/-- The characters, laid out. -/
def apply (layout : Layout) (cs : List Char) : List Char :=
  let cs :=
    match layout.limit with
    | some n => cs.take n
    | none => cs
  let missing := layout.width - cs.length
  let first := before missing layout.alignment
  List.replicate first layout.fill ++ cs ++ List.replicate (missing - first) layout.fill

end Layout

end ListingFilter.Text
