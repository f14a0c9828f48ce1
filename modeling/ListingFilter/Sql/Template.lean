import ListingFilter.Fault
import ListingFilter.Text.Layout
/-!
# Templates

A template is SQL text with named slots between braces; a brace that is text is doubled. After its
name a slot may ask for one character of its value by position in brackets, after an exclamation
mark for its value between quotation marks, and after a colon for a layout, which is a template
itself. A slot without a value shows as a word and has no layout.

A template is read from left to right, and the first thing that is wrong with it decides.
-/

namespace ListingFilter.Sql

namespace Template

open Text (isDigit)

/-- A slot, taken apart. -/
structure Slot where
  name : List Char
  /-- What is asked of the value, as it is written. -/
  path : List Char
  /-- How the value is shown. -/
  conversion : Option Char
  /-- The layout, as it is written. -/
  layout : List Char
  deriving DecidableEq, Repr

/-- The slot with what is written before its conversion and its layout. -/
def Slot.ofField (field : List Char) (conversion : Option Char) (layout : List Char) : Slot :=
  let inName (c : Char) : Bool := c != '.' && c != '['
  ⟨field.takeWhile inName, field.dropWhile inName, conversion, layout⟩

/-- A piece of a template. -/
inductive Piece
  | text (c : Char)
  | slot (slot : Slot)
  /-- The template breaks off. -/
  | broken
  deriving DecidableEq, Repr

/-- Where the reader of a template stands. What was read of a part is kept in reverse. -/
inductive Mode
  | text
  /-- Before the conversion and the layout of a slot, perhaps between brackets. -/
  | field (read : List Char) (bracketed : Bool)
  /-- After an exclamation mark. -/
  | conversion (field : List Char)
  | converted (field : List Char) (conversion : Char)
  /-- In a layout, inside `depth` slots of it. -/
  | layout (field : List Char) (conversion : Option Char) (read : List Char) (depth : Nat)
  deriving DecidableEq, Repr

/-- The pieces of the characters. -/
def pieces : Mode → List Char → List Piece
  | .text, [] => []
  | .text, '\x7b' :: '\x7b' :: rest => .text '\x7b' :: pieces .text rest
  | .text, '\x7d' :: '\x7d' :: rest => .text '\x7d' :: pieces .text rest
  | .text, '\x7b' :: rest => pieces (.field [] false) rest
  | .text, '\x7d' :: _ => [.broken]
  | .text, c :: rest => .text c :: pieces .text rest
  | .field read true, c :: rest => pieces (.field (c :: read) (c != ']')) rest
  | .field read false, '\x7d' :: rest =>
    .slot (.ofField read.reverse none []) :: pieces .text rest
  | .field _ false, '\x7b' :: _ => [.broken]
  | .field read false, '!' :: rest => pieces (.conversion read.reverse) rest
  | .field read false, ':' :: rest => pieces (.layout read.reverse none [] 0) rest
  | .field read false, c :: rest => pieces (.field (c :: read) (c == '[')) rest
  | .conversion field, c :: rest => pieces (.converted field c) rest
  | .converted field c, '\x7d' :: rest => .slot (.ofField field (some c) []) :: pieces .text rest
  | .converted field c, ':' :: rest => pieces (.layout field (some c) [] 0) rest
  | .layout field c read 0, '\x7d' :: rest =>
    .slot (.ofField field c read.reverse) :: pieces .text rest
  | .layout field c read (depth + 1), '\x7d' :: rest =>
    pieces (.layout field c ('\x7d' :: read) depth) rest
  | .layout field c read depth, '\x7b' :: rest =>
    pieces (.layout field c ('\x7b' :: read) (depth + 1)) rest
  | .layout field conversion read depth, c :: rest =>
    pieces (.layout field conversion (c :: read) depth) rest
  | _, _ => [.broken]

/-- The values of slots by name. -/
abbrev Values := List (String × Option String)

/-- What is asked of a value. -/
inductive Access
  | member (name : List Char)
  | item (name : List Char)
  /-- It is not written as it should be. -/
  | broken
  deriving DecidableEq, Repr

/-- Where the reader of a path stands. -/
inductive PathMode
  | start
  | member (read : List Char)
  | item (read : List Char)
  deriving DecidableEq, Repr

/-- What was read, unless it is nothing. -/
def access (read : List Char) (make : List Char → Access) : Access :=
  if read.isEmpty then .broken else make read.reverse

/-- What a path asks for, in order. -/
def accesses : PathMode → List Char → List Access
  | .start, [] => []
  | .start, '.' :: rest => accesses (.member []) rest
  | .start, '[' :: rest => accesses (.item []) rest
  | .start, _ :: _ => [.broken]
  | .member read, [] => [access read .member]
  | .member read, '.' :: rest => access read .member :: accesses (.member []) rest
  | .member read, '[' :: rest => access read .member :: accesses (.item []) rest
  | .member read, c :: rest => accesses (.member (c :: read)) rest
  | .item _, [] => [.broken]
  | .item read, ']' :: rest => access read .item :: accesses .start rest
  | .item read, c :: rest => accesses (.item (c :: read)) rest

/-- The number that a name is, if it is one, or a fault if it is too great. -/
def position? (name : List Char) : Except Fault (Option Nat) :=
  if name.isEmpty || !name.all isDigit then .ok none
  else if Text.Layout.greatestNumber < Numeral.value name then .error .malformedTemplate
  else .ok (some (Numeral.value name))

/-- What is asked of a value. A text has characters by position, and nothing else. -/
def follow (value : Option String) : Access → Except Fault (Option String)
  | .broken => .error .malformedTemplate
  | .member _ => .error .noSuchMember
  | .item name =>
    match position? name, value with
    | .error fault, _ => .error fault
    | .ok (some n), some text =>
      match text.toList[n]? with
      | some c => .ok (some (String.ofList [c]))
      | none => .error .positionOutside
    | _, _ => .error .notIndexable

/-- The value of a slot before it is shown. A slot without a name, or with a number for one, has
none. -/
def valueOf (values : Values) (slot : Slot) : Except Fault (Option String) :=
  match position? slot.name with
  | .error fault => .error fault
  | .ok (some _) => .error .namelessSlot
  | .ok none =>
    if slot.name.isEmpty then .error .namelessSlot
    else
      match lookup? values (String.ofList slot.name) with
      | none => .error (.unknownSlot (String.ofList slot.name))
      | some value => (accesses .start slot.path).foldlM follow value

/-- The text of a value that is missing. -/
def missingText : String := "None"

/-- The value as its conversion shows it. -/
def convert (value : Option String) : Option Char → Except Fault (Option String)
  | none => .ok value
  | some 's' => .ok (some (value.getD missingText))
  | some 'r' => .ok (some ((value.map Text.quoted).getD missingText))
  | some 'a' => .ok (some ((value.map Text.quotedAscii).getD missingText))
  | some _ => .error .malformedTemplate

/-- The value, laid out. -/
def layOut (value : Option String) (layout : List Char) : Except Fault (List Char) :=
  if layout.isEmpty then .ok (value.getD missingText).toList
  else
    match value with
    | none => .error .noLayout
    | some text =>
      match Text.Layout.read? layout with
      | some layout => .ok (layout.apply text.toList)
      | none => .error .malformedTemplate

/-- The characters that a piece stands for; `expand` fills the slots of a layout. -/
def fillPiece (expand : List Char → Except Fault (List Char)) (values : Values) :
    Piece → Except Fault (List Char)
  | .text c => .ok [c]
  | .broken => .error .malformedTemplate
  | .slot slot =>
    match valueOf values slot with
    | .error fault => .error fault
    | .ok value =>
      match convert value slot.conversion with
      | .error fault => .error fault
      | .ok value =>
        if slot.layout.contains '\x7b' then (expand slot.layout).bind (layOut value)
        else layOut value slot.layout

/-- The characters with the values of their slots. Layouts may hold slots to the depth `depth`. -/
def fillChars (values : Values) : Nat → List Char → Except Fault (List Char)
  | 0, _ => .error .malformedTemplate
  | depth + 1, cs =>
    ((pieces .text cs).mapM (fillPiece (fillChars values depth) values)).map List.flatten

end Template

/-- The template with the values of its slots. A layout may hold slots, but theirs may not. -/
def fill (values : Template.Values) (template : String) : Except Fault String :=
  (Template.fillChars values 2 template.toList).map String.ofList

end ListingFilter.Sql
