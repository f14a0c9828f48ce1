import ListingFilter.Clause.Condition
/-!
# Free text

Free text is looked for in every filter column. Each column gives one probe: an expression, an
operator and an operand. Some probe has to succeed; under a negation every probe has to fail, where
a missing value fails. The operand is the same for all texts, so it is bound once.
-/

namespace ListingFilter

open Sql (Binding literal containsPattern)

/-- How a probe compares. -/
inductive ProbeOperator
  | equal
  | contains
  | regexp
  deriving DecidableEq, Repr

/-- The operator in SQL. -/
def ProbeOperator.text (negated : Bool) : ProbeOperator → String
  | .equal => if negated then "!=" else "="
  | .contains => if negated then "NOT ILIKE" else "ILIKE"
  | .regexp => if negated then "!~" else "~"

/-- One comparison of a column with free text. -/
structure Probe where
  expr : String
  /-- The column is compared as a number. -/
  numeric : Bool
  operator : ProbeOperator
  operand : String
  deriving DecidableEq, Repr

/-- A probe in SQL. Its negation also holds of a missing value. -/
def Probe.text (negated : Bool) (probe : Probe) : String :=
  let expr := probe.expr
  let type := if probe.numeric then "NUMERIC" else "TEXT"
  let operator := probe.operator.text negated
  let operand := probe.operand
  let comparison := s!"CAST({expr} AS {type}) {operator} {operand}"
  if negated then s!"({expr} IS NULL OR {comparison})" else comparison

/-- The known values of a column, which are listed without the underscore of a private column. -/
def knownValues? (enums : List (String × List String)) (column : String) : Option (List String) :=
  lookup? enums
    (if column.toList.head? = some '_' then String.ofList (column.toList.drop 1) else column)

/-- Whether free text could match a column: one of its known values holds the text, in any case of
letters, or no values are known. -/
def enumAllows (enums : List (String × List String)) (column text : String) : Bool :=
  match knownValues? enums column with
  | none => true
  | some values => values.any fun value => Text.contains (Text.lower value) (Text.lower text)

/-- What free text is compared by: an exact text is equal, a pattern matches, any other is
contained. -/
def freeTextOperator (keyword : Keyword) (regexp : Bool) : ProbeOperator :=
  if keyword.equal then .equal else if regexp then .regexp else .contains

/-- The operand of all texts. -/
def freeTextOperand (keyword : Keyword) (regexp : Bool) : Binding String :=
  match freeTextOperator keyword regexp with
  | .contains => containsPattern keyword.text
  | _ => literal (.text keyword.text)

/-- The name is not one of a column that free text is looked for in. -/
def isOutOfReach (name : String) : Bool :=
  tagColumns.contains name || extractedColumns.contains name

/-- The column that free text is looked for in under the name `name`, if there is one. An exact text
is looked for whatever the known values are. -/
def freeTextTarget? (selectColumns whereColumns : List Column)
    (enums : List (String × List String)) (keyword : Keyword) (name : String) : Option Column :=
  if isOutOfReach name then none
  else if keyword.equal || enumAllows enums name keyword.text then
    Column.resolve? selectColumns whereColumns name
  else none

/-- The probes of the columns; `shared` is the operand of the texts before them. -/
def bindProbes (keyword : Keyword) (regexp : Bool) :
    Option String → List Column → Sql.Binding (List Probe)
  | _, [] => return []
  | shared, column :: rest => do
    if keyword.equal && keyword.isNumeric && column.type.isNumeric then
      let number ← literal keyword.number
      let probes ← bindProbes keyword regexp shared rest
      return ⟨column.select, true, .equal, number⟩ :: probes
    else
      let operand ←
        match shared with
        | some operand => pure operand
        | none => freeTextOperand keyword regexp
      let probes ← bindProbes keyword regexp (some operand) rest
      return ⟨column.select, false, freeTextOperator keyword regexp, operand⟩ :: probes

/-- The probes of free text in the filter columns. -/
def freeTextProbes (selectColumns whereColumns : List Column)
    (enums : List (String × List String)) (keyword : Keyword) (regexp : Bool)
    (filterColumns : List String) : Binding (List Probe) :=
  bindProbes keyword regexp none
    (filterColumns.filterMap (freeTextTarget? selectColumns whereColumns enums keyword))

/-- Some probe succeeds, or none does. -/
def freeTextCondition (negated : Bool) (probes : List Probe) : Option String :=
  if probes.isEmpty then none
  else
    some ("(" ++ String.intercalate (if negated then " AND " else " OR ")
      (probes.map (Probe.text negated)) ++ ")")

end ListingFilter
