import ListingFilter.Keyword.Part
/-!
# The keywords of a filter term

The keywords of a term are those of its parts in order. Of an option that may be set once the first
setting counts. A term that does not set the first row, the number of rows or the order gets their
defaults at its end.
-/

namespace ListingFilter

/-- The keywords without those that set an option a second time; `seen` are the options set
before. -/
def dropRepeats (seen : List String) : List Keyword → List Keyword
  | [] => []
  | keyword :: rest =>
    match keyword.column with
    | none => keyword :: dropRepeats seen rest
    | some column =>
      if !singleUseColumns.contains column then keyword :: dropRepeats seen rest
      else if seen.contains column then dropRepeats seen rest
      else keyword :: dropRepeats (column :: seen) rest

/-- Some keyword is on `column`. -/
def setsColumn (keywords : List Keyword) (column : String) : Bool :=
  keywords.any fun keyword => keyword.column == some column

/-- The keywords that stand for what `keywords` leave open. -/
def defaultKeywords (defaultSort : Option String) (keywords : List Keyword) : List Keyword :=
  (if setsColumn keywords "first" then []
    else [{ text := "1", column := some "first", type := .integer, integer := 1 }]) ++
  (if setsColumn keywords "rows" then []
    else [{ text := "-2", column := some "rows", type := .integer, integer := -2 }]) ++
  match defaultSort with
  | some field =>
    if field = "" || setsColumn keywords "sort" || setsColumn keywords "sort-reverse" then []
    else [{ text := field, column := some "sort", type := .string }]
  | none => []

/-- The keywords written in a term. -/
def writtenKeywords (clock : Clock) (term : String) : Except Fault (List Keyword) :=
  ((Part.ofTerm term).mapM (Part.keyword clock)).map (dropRepeats [])

/-- The keywords of a term, with their defaults. -/
def split (clock : Clock) (term : String) (defaultSort : Option String) :
    Except Fault (List Keyword) :=
  (writtenKeywords clock term).map fun keywords =>
    keywords ++ defaultKeywords defaultSort keywords

/-- The sort field of a term that names none. -/
def defaultSortField : String := "name"

/-- The text of the first keyword on `column`. A missing term has none. -/
def termValue? (clock : Clock) (term : Option String) (column : String) :
    Except Fault (Option String) :=
  match term with
  | none => .ok none
  | some term =>
    (split clock term (some defaultSortField)).map fun keywords =>
      (keywords.find? (·.columnIs column)).map (·.text)

/-- Whether a term applies overrides: not by itself, and not if it says 0. -/
def termAppliesOverrides (clock : Clock) (term : Option String) : Except Fault Int :=
  (termValue? clock term "apply_overrides").map fun value =>
    match value with
    | none => 0
    | some value => if value = "0" then 0 else 1

/-- The least quality of detection that counts without a setting. -/
def defaultMinQod : Int := 70

/-- The least quality of detection that a term asks for. -/
def termMinQod (clock : Clock) (term : Option String) : Except Fault Int :=
  (termValue? clock term "min_qod").map fun value =>
    match value with
    | none => defaultMinQod
    | some value => if value = "" then defaultMinQod else leadingInteger value

end ListingFilter
