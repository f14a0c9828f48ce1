import ListingFilter.Fault
import ListingFilter.Text.Blank
/-!
# Bound parameters

A value reaches a statement as a parameter: the text of the statement holds only the name of the
parameter, after a colon. Numbers need no parameter. The name of a new parameter is made of a stem
and the number of the parameters before it, and is lengthened until it is free.
-/

namespace ListingFilter.Sql

/-- The parameters of a clause, in the order of their names' first use. -/
structure Bindings where
  stem : String
  entries : List (String × Json) := []
  deriving Inhabited

/-- A computation that may bind parameters. -/
abbrev Binding (α : Type) := StateT Bindings (Except Fault) α

namespace Bindings

/-- Lengthens `name` while it is among `taken`, at most `fuel` times. -/
def freshen (taken : List String) : Nat → String → String
  | 0, name => name
  | fuel + 1, name => if taken.contains name then freshen taken fuel (name ++ "_") else name

/-- A name that no parameter has. One step for each parameter is enough, as the names tried
differ. -/
def freshName (bindings : Bindings) : String :=
  freshen (bindings.entries.map (·.1)) bindings.entries.length
    (bindings.stem ++ "_" ++ toString bindings.entries.length)

/-- Binds a new parameter to the text of `value`; returns the parameter as it stands in a
statement. -/
def bind (bindings : Bindings) (value : String) : String × Bindings :=
  let name := bindings.freshName
  (":" ++ name, { bindings with entries := bindings.entries ++ [(name, .text value)] })

end Bindings

/-- The number that needs no parameter, as it stands in a statement. -/
def inline? : Json → Option (Except Fault String)
  | .bool value => some (.ok (if value then "1" else "0"))
  | .integer value =>
    some (match Numeral.write? value with
      | some text => .ok text
      | none => .error .numeralTooLong)
  | .real value => if value.isFinite then some (.ok value.text) else none
  | _ => none

/-- A value as it stands in a statement. -/
def literal (value : Json) : Binding String := fun bindings =>
  match inline? value with
  | some (.ok text) => .ok (text, bindings)
  | some (.error fault) => .error fault
  | none =>
    match value.display? with
    | some text => .ok (bindings.bind text)
    | none => .error .numeralTooLong

/-- A pattern that matches the texts which hold `part`. -/
def containsPattern (part : String) : Binding String := literal (.text ("%" ++ part ++ "%"))

/-- Fragments of a clause with their parameters. -/
structure Fragments where
  bindings : Bindings
  parts : List String := []
  deriving Inhabited

namespace Fragments

/-- The fragments with one more at the end. -/
def append (fragments : Fragments) (fragment : String) : Fragments :=
  { fragments with parts := fragments.parts ++ [fragment] }

/-- The text of the clause, without blanks at its ends. -/
def text (fragments : Fragments) : String := Text.trim (String.join fragments.parts)

/-- The clause says something. -/
def isPresent (fragments : Fragments) : Bool := fragments.text != ""

end Fragments

end ListingFilter.Sql
